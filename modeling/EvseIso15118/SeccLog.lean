import EvseIso15118.JsonReads
import EvseIso15118.Octets
import EvseIso15118.RingBuffer

namespace EvseIso15118

open Json

inductive SeccLogLevel where
  | debug | info | warn | error | critical
  /-- a value without a name -/
  | other (value : UInt32)
  deriving DecidableEq

inductive SeccLogCategory where
  | main | session | transport | v2g | stateMachine | exi | simulator | security
  /-- a value without a name -/
  | other (value : UInt32)
  deriving DecidableEq

/-- `secc_log_entry_t`; the two character arrays as the strings in them. -/
structure SeccLogEntry where
  timestampMs : UInt64
  level : SeccLogLevel
  category : SeccLogCategory
  sessionId : UInt32
  message : List Byte
  component : List Byte
  deriving DecidableEq

structure Timeval where
  tvSec : UInt64
  tvUsec : UInt64

def getTimestampMs (tv : Timeval) : UInt64 := tv.tvSec * 1000 + tv.tvUsec / 1000

def getLevelName : SeccLogLevel → List Byte
  | .debug => asciiBytes "DEBUG"
  | .info => asciiBytes "INFO"
  | .warn => asciiBytes "WARN"
  | .error => asciiBytes "ERROR"
  | .critical => asciiBytes "CRITICAL"
  | .other _ => asciiBytes "UNKNOWN"

def getCategoryName : SeccLogCategory → List Byte
  | .main => asciiBytes "MAIN"
  | .session => asciiBytes "SESSION"
  | .transport => asciiBytes "TRANSPORT"
  | .v2g => asciiBytes "V2G"
  | .stateMachine => asciiBytes "STATE_MACHINE"
  | .exi => asciiBytes "EXI"
  | .simulator => asciiBytes "SIMULATOR"
  | .security => asciiBytes "SECURITY"
  | .other _ => asciiBytes "UNKNOWN"

/-- What a `char` array of `size` bytes takes of a C string, its end included. -/
def cString (size : ℕ) (text : List Byte) : List Byte := (text.takeWhile (· ≠ 0)).take (size - 1)

/-- The arguments of `secc_log`; of the format and what follows it, the text they make, and of
the clock its reading. -/
structure SeccLogArgs where
  level : SeccLogLevel
  category : SeccLogCategory
  sessionId : UInt32
  component : List Byte
  text : List Byte
  now : Timeval

/-- The entry `secc_log` fills. -/
def SeccLogArgs.entry (args : SeccLogArgs) : SeccLogEntry :=
  { timestampMs := getTimestampMs args.now
    level := args.level
    category := args.category
    sessionId := args.sessionId
    message := cString 512 args.text
    component := cString 32 args.component }

/-- What `secc_log` prints of an entry. -/
def logObject (e : SeccLogEntry) : List Byte :=
  asciiBytes "  \x7b\n" ++
  (asciiBytes "    \"timestamp_ms\": " ++ decimal e.timestampMs.toNat ++ asciiBytes ",\n") ++
  (asciiBytes "    \"level\": \"" ++ getLevelName e.level ++ asciiBytes "\",\n") ++
  (asciiBytes "    \"category\": \"" ++ getCategoryName e.category ++ asciiBytes "\",\n") ++
  (asciiBytes "    \"session_id\": " ++ decimal e.sessionId.toNat ++ asciiBytes ",\n") ++
  (asciiBytes "    \"component\": \"" ++ e.component ++ asciiBytes "\",\n") ++
  (asciiBytes "    \"message\": \"" ++ e.message ++ asciiBytes "\"\n") ++
  asciiBytes "  \x7d"

def seccLogBufferSize : ℕ := 1000

structure SeccLogState where
  /-- `g_log_buffer` -/
  buffer : RingBuffer SeccLogEntry
  /-- `g_log_initialized` -/
  initialized : Bool
  /-- `g_log_file` is not `NULL` -/
  fileOpen : Bool
  /-- the static variable of `secc_log` -/
  first : Bool
  /-- `SECC_LOG_FILE` as it is on the disk -/
  file : List Byte

def SeccLogState.start (file : List Byte) : SeccLogState :=
  { buffer := ⟨fun _ => ⟨0, .debug, .main, 0, [], []⟩, 0, 0, 0⟩
    initialized := false
    fileOpen := false
    first := true
    file := file }

/-- `opens`: the file can be opened. -/
def seccLogInit (s : SeccLogState) (opens : Bool) : ℤ × SeccLogState :=
  if s.initialized then (0, s)
  else if opens then
    (0, { s with
      buffer := s.buffer.reset
      fileOpen := true
      file := asciiBytes "[\n"
      initialized := true })
  else (-1, { s with buffer := s.buffer.reset, fileOpen := false })

def seccLogClose (s : SeccLogState) : SeccLogState :=
  if ¬ s.initialized then s
  else if s.fileOpen then
    { s with file := s.file ++ asciiBytes "\n]\n", fileOpen := false, initialized := false }
  else { s with initialized := false }

def seccLog (s : SeccLogState) (args : SeccLogArgs) : SeccLogState :=
  if ¬ s.initialized then s
  else if s.fileOpen then
    { s with
      buffer := s.buffer.push seccLogBufferSize args.entry
      file := s.file ++ (if s.first then [] else asciiBytes ",\n") ++ logObject args.entry
      first := false }
  else { s with buffer := s.buffer.push seccLogBufferSize args.entry }

/-- `entries`: the array of the caller, none for `NULL`. -/
def seccLogGetRecent (s : SeccLogState) (entries : Option (List SeccLogEntry)) (maxEntries : ℤ) :
    ℤ × Option (List SeccLogEntry) :=
  if ¬ s.initialized ∨ entries = none ∨ maxEntries ≤ 0 then (0, entries)
  else
    let count := if s.buffer.count < maxEntries then s.buffer.count else maxEntries
    (count, entries.map fun es =>
      overwrite es 0 (s.buffer.readFrom seccLogBufferSize count.toNat s.buffer.tail))

inductive SeccLogCall where
  | init (opens : Bool)
  | log (args : SeccLogArgs)
  | close

def SeccLogState.call (s : SeccLogState) : SeccLogCall → SeccLogState
  | .init opens => (seccLogInit s opens).2
  | .log args => seccLog s args
  | .close => seccLogClose s

def SeccLogState.run (s : SeccLogState) (calls : List SeccLogCall) : SeccLogState :=
  calls.foldl SeccLogState.call s

/-- What a logger is there for: while it is active it keeps what it is given. It is emptied when
it is initialized anew, whether or not it can be. -/
structure LogHistory where
  active : Bool
  logged : List SeccLogEntry

def LogHistory.call (h : LogHistory) : SeccLogCall → LogHistory
  | .init opens => if h.active then h else ⟨opens, []⟩
  | .log args => if h.active then { h with logged := h.logged ++ [args.entry] } else h
  | .close => { h with active := false }

def LogHistory.run (calls : List SeccLogCall) : LogHistory :=
  calls.foldl LogHistory.call ⟨false, []⟩

/-- The logger is active with the history and its ring holds the end of it; the file is open
while it is active. -/
structure SeccLogState.Follows (s : SeccLogState) (h : LogHistory) : Prop where
  active : s.initialized = h.active
  open_iff : s.fileOpen = s.initialized
  holds : s.buffer.Holds seccLogBufferSize (h.logged.rtake seccLogBufferSize)

namespace SeccLogState

variable {s : SeccLogState} {h : LogHistory}

theorem follows_start (file : List Byte) : (start file).Follows ⟨false, []⟩ where
  active := rfl
  open_iff := rfl
  holds := by
    rw [List.rtake_nil]
    exact RingBuffer.holds_reset (by decide) (start file).buffer

theorem Follows.init (hs : s.Follows h) (opens : Bool) :
    (s.call (.init opens)).Follows (h.call (.init opens)) := by
  rw [call, LogHistory.call, seccLogInit, ← hs.active]
  cases hinit : s.initialized with
  | true => exact hs
  | false =>
    have hempty : s.buffer.reset.Holds seccLogBufferSize (List.rtake [] seccLogBufferSize) := by
      rw [List.rtake_nil]
      exact RingBuffer.holds_reset (by decide) s.buffer
    cases opens with
    | true => exact ⟨rfl, rfl, hempty⟩
    | false => exact ⟨rfl, rfl, hempty⟩

theorem Follows.log (hs : s.Follows h) (args : SeccLogArgs) :
    (s.call (.log args)).Follows (h.call (.log args)) := by
  rw [call, LogHistory.call, seccLog, hs.open_iff, ← hs.active]
  cases hinit : s.initialized with
  | false => exact hs
  | true =>
    have hpush := hs.holds.push args.entry
    rw [RingBuffer.enqueue_rtake (by decide)] at hpush
    exact ⟨rfl, rfl, hpush⟩

theorem Follows.close (hs : s.Follows h) : (s.call .close).Follows (h.call .close) := by
  rw [call, LogHistory.call, seccLogClose, hs.open_iff]
  cases hinit : s.initialized with
  | false => exact ⟨hinit, hs.open_iff, hs.holds⟩
  | true => exact ⟨rfl, rfl, hs.holds⟩

theorem Follows.call (hs : s.Follows h) (c : SeccLogCall) : (s.call c).Follows (h.call c) := by
  cases c with
  | init opens => exact hs.init opens
  | log args => exact hs.log args
  | close => exact hs.close

theorem Follows.foldl (hs : s.Follows h) (calls : List SeccLogCall) :
    (s.run calls).Follows (calls.foldl LogHistory.call h) := by
  induction calls generalizing s h with
  | nil => exact hs
  | cons c calls ih => exact ih (hs.call c)

theorem follows_run (file : List Byte) (calls : List SeccLogCall) :
    ((start file).run calls).Follows (LogHistory.run calls) :=
  (follows_start file).foldl calls

end SeccLogState

/-- In every state the ring is a bounded queue with the last entries logged since it was
emptied. -/
theorem seccLog_refines_boundedQueue (file : List Byte) (calls : List SeccLogCall) :
    let r := ((SeccLogState.start file).run calls).buffer
    let logged := (LogHistory.run calls).logged
    0 ≤ r.head ∧ r.head < 1000 ∧ 0 ≤ r.tail ∧ r.tail < 1000 ∧ 0 ≤ r.count ∧ r.count ≤ 1000 ∧
      r.head = (r.tail + r.count) % 1000 ∧ r.count = min logged.length 1000 ∧
      ∀ i : ℕ, i < r.count →
        some (r.entries ((r.tail + i) % 1000)) = logged[logged.length - r.count.toNat + i]? := by
  intro r logged
  have h : r.Holds 1000 (logged.rtake 1000) := (SeccLogState.follows_run file calls).holds
  have hcount : r.count = (min logged.length 1000 : ℕ) := by
    rw [h.count_eq, RingBuffer.length_rtake]
  refine ⟨h.head_nonneg, h.head_lt, h.tail_nonneg, h.tail_lt, by omega, by omega, h.head_eq,
    hcount, ?_⟩
  intro i hi
  have hi' : i < (logged.rtake 1000).length := by
    rw [RingBuffer.length_rtake]
    omega
  have hcell : r.entries ((r.tail + i) % 1000) = _ := h.cells i hi'
  have hstart : logged.length - 1000 = logged.length - r.count.toNat := by omega
  rw [hcell, ← List.getElem?_eq_getElem hi', List.rtake, List.getElem?_drop, hstart]

/-- The oldest of the entries kept come back. -/
theorem SeccLogState.Follows.getRecent {s : SeccLogState} {h : LogHistory} (hs : s.Follows h)
    (hinit : s.initialized = true) (es : List SeccLogEntry) {maxEntries : ℤ}
    (hmax : 0 < maxEntries) :
    let k := min (h.logged.rtake seccLogBufferSize).length maxEntries.toNat
    seccLogGetRecent s (some es) maxEntries =
      ((k : ℤ), some (overwrite es 0 ((h.logged.rtake seccLogBufferSize).take k))) := by
  intro k
  have hcount : (if s.buffer.count < maxEntries then s.buffer.count else maxEntries) = k := by
    rw [hs.holds.count_eq]
    split_ifs <;> omega
  have hguard : ¬ (¬ s.initialized = true ∨ some es = none ∨ maxEntries ≤ 0) := by
    simp [hinit, hmax]
  rw [seccLogGetRecent, if_neg hguard]
  dsimp only
  rw [hcount, Int.toNat_natCast, hs.holds.readFrom_tail (min_le_left _ _), Option.map_some]

/-- What is returned is the end of the log exactly if the entries kept repeat at the distance by
which there are too many of them. -/
theorem seccLogGetRecent_mostRecent_iff (file : List Byte) {calls : List SeccLogCall}
    (hinit : ((SeccLogState.start file).run calls).initialized) (es : List SeccLogEntry)
    {maxEntries : ℤ} (hmax : 0 < maxEntries) :
    let logged := (LogHistory.run calls).logged
    let k := min (min logged.length 1000) maxEntries.toNat
    let r := seccLogGetRecent ((SeccLogState.start file).run calls) (some es) maxEntries
    r.1 = k ∧ (r.2.map (List.take k) = some (logged.rtake k) ↔
      RingBuffer.Repeats (min logged.length 1000 - maxEntries.toNat) (logged.rtake 1000)) := by
  intro logged k r
  have hlen : (logged.rtake 1000).length = min logged.length 1000 := RingBuffer.length_rtake _ _
  have hr : r = ((k : ℤ), some (overwrite es 0 ((logged.rtake 1000).take k))) := by
    have hget := (SeccLogState.follows_run file calls).getRecent hinit es hmax
    rw [show seccLogBufferSize = 1000 from rfl] at hget
    rwa [show ((LogHistory.run calls).logged.rtake 1000).length = min logged.length 1000 from hlen]
      at hget
  have htake : ((logged.rtake 1000).take k).length = k := by
    rw [List.length_take, hlen]
    omega
  have hlast : logged.rtake k = (logged.rtake 1000).rtake k := by
    have hskip : logged.length - 1000 + (logged.length - (logged.length - 1000) - k) =
        logged.length - k := by omega
    rw [List.rtake, List.rtake, List.rtake, List.drop_drop, List.length_drop, hskip]
  have hperiod : min logged.length 1000 - maxEntries.toNat = (logged.rtake 1000).length - k := by
    omega
  refine ⟨congrArg Prod.fst hr, ?_⟩
  rw [hr, hperiod, ← RingBuffer.take_eq_rtake_iff (by omega), hlast, Option.map_some,
    Option.some.injEq, overwrite, List.take_zero, List.nil_append,
    List.take_append_of_le_length htake.ge, List.take_of_length_le htake.le]

def heartbeatArgs (text : List Byte) : SeccLogArgs :=
  ⟨.info, .main, 1, asciiBytes "main", text, ⟨0, 0⟩⟩

def upDownUpDown : List SeccLogCall :=
  [.init true, .log (heartbeatArgs (asciiBytes "up")), .log (heartbeatArgs (asciiBytes "down")),
    .log (heartbeatArgs (asciiBytes "up")), .log (heartbeatArgs (asciiBytes "down"))]

theorem seccLogGetRecent_mostRecent_iff_alternating :
    (seccLogGetRecent ((SeccLogState.start []).run upDownUpDown) (some []) 2).2.map (List.take 2) =
      some ((LogHistory.run upDownUpDown).logged.rtake 2) := by
  refine (@seccLogGetRecent_mostRecent_iff [] upDownUpDown (by decide) [] 2 (by decide)).2.mpr ?_
  intro i hi
  match i, hi with
  | 0, _ => rfl
  | 1, _ => rfl

/-- Of two entries the older comes back when one is asked for. -/
theorem seccLogGetRecent_oldest :
    let calls := [.init true, .log (heartbeatArgs (asciiBytes "up")),
      .log (heartbeatArgs (asciiBytes "down"))]
    seccLogGetRecent ((SeccLogState.start []).run calls) (some []) 1 =
        (1, some [(heartbeatArgs (asciiBytes "up")).entry]) ∧
      (LogHistory.run calls).logged.rtake 1 = [(heartbeatArgs (asciiBytes "down")).entry] ∧
      (heartbeatArgs (asciiBytes "up")).entry ≠ (heartbeatArgs (asciiBytes "down")).entry := by
  decide

end EvseIso15118
