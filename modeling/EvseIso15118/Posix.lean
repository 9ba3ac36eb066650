import EvseIso15118.Ownership
import EvseIso15118.SlacMachine

namespace EvseIso15118

open Ownership

/-- The sockets that are opened. -/
inductive SocketKind
  /-- `AF_INET6`, `SOCK_DGRAM`. -/
  | udp6
  /-- `AF_INET`, `SOCK_STREAM`. -/
  | tcp4
  /-- `PF_PACKET`, `SOCK_RAW`, for HomePlug frames. -/
  | homeplug
  deriving DecidableEq

inductive SocketOption
  | reuseAddr
  | reusePort
  | multicastLoop
  /-- `IPV6_JOIN_GROUP` on the interface with this index. -/
  | joinGroup (iface : ℕ)
  | recvTimeout
  deriving DecidableEq

/-- The fields of `struct sockaddr_in6` that are used. -/
structure SockaddrIn6 where
  addr : Octets 16
  port : UInt16
  deriving DecidableEq

/-- What `getifaddrs` says of an interface: its name, its IPv6 address if it has one, and the flags
that are tested. -/
structure Ifaddr where
  name : List Byte
  addr : Option (Octets 16)
  isLoopback : Bool
  isUp : Bool
  isRunning : Bool

/-- `strncpy` into a buffer of `len` bytes that is terminated. -/
def copyName (len : ℕ) (name : List Byte) : List Byte := name.take (len - 1)

/-- `IF_NAMESIZE`, and `IFNAMSIZ`. -/
def ifNameSize : ℕ := 16

inductive PosixCall
  | getifaddrs
  | freeifaddrs (list : ℕ)
  | socket (kind : SocketKind)
  | setsockopt (fd : ℤ) (option : SocketOption)
  | ifIndex (fd : ℤ) (name : List Byte)
  | ifHwaddr (fd : ℤ) (name : List Byte)
  | bind (fd : ℤ)
  | listen (fd : ℤ)
  | accept (fd : ℤ)
  | ifNametoindex (name : List Byte)
  | inetPton
  | recvfrom (fd : ℤ)
  | sendto (fd : ℤ) (buf : List Byte) (dest : SockaddrIn6)
  /-- With room for so many bytes. -/
  | recv (fd : ℤ) (room : ℕ)
  | send (fd : ℤ) (buf : List Byte)
  | getpeername (fd : ℤ)
  /-- What one `slac_step` finds: its calls of `recv` and `sendto`, the clock and `rand`. -/
  | slacFrames (fd : ℤ)
  | rand
  | close (fd : ℤ)
  | malloc
  | free (block : ℕ)

/-- A negative result is an error, `none` an error or a null pointer; `recv` finds no bytes at the
end of the stream and after an error. -/
@[reducible] def PosixCall.Answer : PosixCall → Type
  | .getifaddrs => Option (ℕ × List Ifaddr)
  | .socket _ | .setsockopt _ _ | .bind _ | .listen _ | .accept _ | .inetPton | .sendto _ _ _
  | .send _ _ | .getpeername _ => ℤ
  | .recv _ room => {bytes : List Byte // bytes.length ≤ room}
  | .ifIndex _ _ => Option ℤ
  | .ifHwaddr _ _ => Option (Octets 6)
  | .ifNametoindex _ | .rand => ℕ
  | .slacFrames _ => SlacEnv × Option (List Byte)
  | .recvfrom _ => Option (List Byte × SockaddrIn6)
  | .malloc => Option ℕ
  | .freeifaddrs _ | .close _ | .free _ => Unit

abbrev Posix (α : Type) := Prog PosixCall.Answer α

abbrev PosixEvent := Event PosixCall.Answer

namespace Posix

def getifaddrs : Posix (Option (ℕ × List Ifaddr)) := .ask .getifaddrs .ret

def freeifaddrs (list : ℕ) : Posix Unit := .ask (.freeifaddrs list) .ret

def socket (kind : SocketKind) : Posix ℤ := .ask (.socket kind) .ret

def setsockopt (fd : ℤ) (option : SocketOption) : Posix ℤ := .ask (.setsockopt fd option) .ret

def ifIndex (fd : ℤ) (name : List Byte) : Posix (Option ℤ) := .ask (.ifIndex fd name) .ret

def ifHwaddr (fd : ℤ) (name : List Byte) : Posix (Option (Octets 6)) :=
  .ask (.ifHwaddr fd name) .ret

def bind (fd : ℤ) : Posix ℤ := .ask (.bind fd) .ret

def listen (fd : ℤ) : Posix ℤ := .ask (.listen fd) .ret

def accept (fd : ℤ) : Posix ℤ := .ask (.accept fd) .ret

def ifNametoindex (name : List Byte) : Posix ℕ := .ask (.ifNametoindex name) .ret

def inetPton : Posix ℤ := .ask .inetPton .ret

def recvfrom (fd : ℤ) : Posix (Option (List Byte × SockaddrIn6)) := .ask (.recvfrom fd) .ret

def sendto (fd : ℤ) (buf : List Byte) (dest : SockaddrIn6) : Posix ℤ :=
  .ask (.sendto fd buf dest) .ret

def recv (fd : ℤ) (room : ℕ) : Posix {bytes : List Byte // bytes.length ≤ room} :=
  .ask (.recv fd room) .ret

def send (fd : ℤ) (buf : List Byte) : Posix ℤ := .ask (.send fd buf) .ret

def getpeername (fd : ℤ) : Posix ℤ := .ask (.getpeername fd) .ret

def slacFrames (fd : ℤ) : Posix (SlacEnv × Option (List Byte)) := .ask (.slacFrames fd) .ret

def rand : Posix ℕ := .ask .rand .ret

def close (fd : ℤ) : Posix Unit := .ask (.close fd) .ret

def malloc : Posix (Option ℕ) := .ask .malloc .ret

def free (block : ℕ) : Posix Unit := .ask (.free block) .ret

end Posix

inductive Resource
  | fd (n : ℤ)
  | ifaddrs (list : ℕ)
  | block (p : ℕ)
  deriving DecidableEq

def openedFd (fd : ℤ) : Set Resource := if 0 ≤ fd then {.fd fd} else ∅

/-- On a connected socket a negative descriptor is refused and no more than that. -/
def PosixCall.uses : PosixCall → Set Resource
  | .getifaddrs | .socket _ | .ifNametoindex _ | .inetPton | .rand | .malloc => ∅
  | .setsockopt fd _ | .ifIndex fd _ | .ifHwaddr fd _ | .bind fd | .listen fd | .accept fd
  | .recvfrom fd | .sendto fd _ _ | .slacFrames fd | .close fd => {.fd fd}
  | .recv fd _ | .send fd _ | .getpeername fd => openedFd fd
  | .freeifaddrs list => {.ifaddrs list}
  | .free p => {.block p}

def PosixCall.frees : PosixCall → Set Resource
  | .close fd => {.fd fd}
  | .freeifaddrs list => {.ifaddrs list}
  | .free p => {.block p}
  | _ => ∅

def PosixEvent.makes : PosixEvent → Set Resource
  | ⟨.getifaddrs, some l⟩ => {.ifaddrs l.1}
  | ⟨.socket _, fd⟩ => openedFd fd
  | ⟨.accept _, fd⟩ => openedFd fd
  | ⟨.malloc, some p⟩ => {.block p}
  | _ => ∅

def posix : Discipline PosixCall.Answer Resource where
  uses := PosixCall.uses
  frees := PosixCall.frees
  frees_subset := by
    intro c
    cases c
    case close | freeifaddrs | free => exact subset_rfl
    all_goals exact Set.empty_subset _
  makes := PosixEvent.makes

section rules
variable {α : Type} {held : Set Resource} {Q : α → Set Resource → Prop} {fd : ℤ}

theorem owns_ask {c : PosixCall} {k : c.Answer → Posix α} (huses : c.uses ⊆ held)
    (hfrees : c.frees = ∅) (hmakes : ∀ answer, PosixEvent.makes ⟨c, answer⟩ = ∅)
    (h : ∀ answer, Owns posix held (k answer) Q) : Owns posix held (Prog.ask c k) Q := by
  refine ⟨huses, fun answer _ => ?_⟩
  have hnext : posix.next held ⟨c, answer⟩ = held := by
    change held \ c.frees ∪ PosixEvent.makes ⟨c, answer⟩ = held
    rw [hfrees, hmakes, Set.sdiff_empty, Set.union_empty]
  rw [hnext]
  exact h answer

theorem owns_open {c : PosixCall} {fd : c.Answer → ℤ} {k : c.Answer → Posix α}
    (huses : c.uses ⊆ held) (hfrees : c.frees = ∅)
    (hmakes : ∀ answer, PosixEvent.makes ⟨c, answer⟩ = openedFd (fd answer))
    (hfail : ∀ answer, fd answer < 0 → Owns posix held (k answer) Q)
    (hopen : ∀ answer, 0 ≤ fd answer → Resource.fd (fd answer) ∉ held →
      Owns posix (insert (.fd (fd answer)) held) (k answer) Q) :
    Owns posix held (Prog.ask c k) Q := by
  refine ⟨huses, fun answer hfresh => ?_⟩
  change Disjoint (PosixEvent.makes ⟨c, answer⟩) held at hfresh
  change Owns posix (held \ c.frees ∪ PosixEvent.makes ⟨c, answer⟩) (k answer) Q
  rw [hmakes, openedFd] at hfresh
  rw [hmakes, openedFd, hfrees, Set.sdiff_empty]
  split_ifs with hfd
  · rw [if_pos hfd, Set.disjoint_singleton_left] at hfresh
    rw [Set.union_singleton]
    exact hopen answer hfd hfresh
  · rw [Set.union_empty]
    exact hfail answer (not_le.mp hfd)

theorem owns_release {c : PosixCall} {r : Resource} {k : c.Answer → Posix α} (hr : r ∉ held)
    (huses : c.uses = {r}) (hfrees : c.frees = {r})
    (hmakes : ∀ answer, PosixEvent.makes ⟨c, answer⟩ = ∅)
    (h : ∀ answer, Owns posix held (k answer) Q) :
    Owns posix (insert r held) (Prog.ask c k) Q := by
  refine ⟨huses.subset.trans (Set.singleton_subset_iff.mpr (Set.mem_insert _ _)),
    fun answer _ => ?_⟩
  change Owns posix (insert r held \ c.frees ∪ PosixEvent.makes ⟨c, answer⟩) (k answer) Q
  rw [hmakes, hfrees, Set.union_empty, Set.insert_sdiff_of_mem _ (Set.mem_singleton _),
    Set.sdiff_singleton_eq_self hr]
  exact h answer

theorem owns_socket (kind : SocketKind) {k : ℤ → Posix α}
    (hfail : ∀ fd < 0, Owns posix held (k fd) Q)
    (hopen : ∀ fd, 0 ≤ fd → Resource.fd fd ∉ held → Owns posix (insert (.fd fd) held) (k fd) Q) :
    Owns posix held (Posix.socket kind >>= k) Q :=
  owns_open (Set.empty_subset _) rfl (fun _ => rfl) hfail hopen

theorem owns_close (hfd : Resource.fd fd ∉ held) {k : Unit → Posix α}
    (h : Owns posix held (k ()) Q) :
    Owns posix (insert (.fd fd) held) (Posix.close fd >>= k) Q :=
  owns_release hfd rfl rfl (fun _ => rfl) fun _ => h

end rules

end EvseIso15118
