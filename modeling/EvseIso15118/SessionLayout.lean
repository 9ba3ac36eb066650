import EvseIso15118.Octets
import EvseIso15118.StructLayout

namespace EvseIso15118

open StructLayout

inductive SessionField
  | clientFd
  | state
  | sessionId
  | evccId
  | evccIdLen
  | transportMode
  | slacCtx
  | slacIface
  | slacNmk
  | slacNid
  | recvBuffer
  | recvBufferLen
  deriving DecidableEq

/-- `secc_session_t`, where `int` and the enumerations have four bytes and pointers eight. -/
def sessionMembers : List (Member SessionField) :=
  [⟨.clientFd, 4, 4⟩, ⟨.state, 4, 4⟩, ⟨.sessionId, 4, 4⟩, ⟨.evccId, 8, 1⟩, ⟨.evccIdLen, 4, 4⟩,
    ⟨.transportMode, 4, 4⟩, ⟨.slacCtx, 8, 8⟩, ⟨.slacIface, 16, 1⟩, ⟨.slacNmk, 16, 1⟩,
    ⟨.slacNid, 7, 1⟩, ⟨.recvBuffer, 2048, 1⟩, ⟨.recvBufferLen, 4, 4⟩]

/-- `secc_context_t`. -/
def contextMembers : List (Member SessionField) :=
  [⟨.clientFd, 4, 4⟩, ⟨.state, 4, 4⟩, ⟨.sessionId, 4, 4⟩, ⟨.evccId, 8, 1⟩, ⟨.evccIdLen, 4, 4⟩,
    ⟨.transportMode, 4, 4⟩, ⟨.recvBuffer, 2048, 1⟩, ⟨.recvBufferLen, 4, 4⟩]

def sessionSlots : List (Slot SessionField) := place 0 sessionMembers

def contextSlots : List (Slot SessionField) := place 0 contextMembers

/-- The members that only `secc_session_t` has. -/
def slacSlots : List (Slot SessionField) :=
  sessionSlots.filter fun s => ¬ s.name ∈ contextSlots.map Slot.name

/-- The offset of a member of `secc_context_t`. -/
def contextOffset (field : SessionField) : ℕ :=
  ((contextSlots.find? fun s => s.name = field).map Slot.offset).getD 0

/-- Every field of both structs reads the same through both. -/
def FieldsAgree (image : ℕ → Byte) : Prop :=
  ∀ s ∈ sessionSlots, ∀ c ∈ contextSlots, s.name = c.name → s.read image = c.read image

/-- The bytes from 28 to 2126 repeat every 51 bytes, the length behind them after 52. -/
def Repeats (image : ℕ → Byte) : Prop :=
  (∀ i < 2048, image (79 + i) = image (28 + i)) ∧ ∀ i < 4, image (2128 + i) = image (2076 + i)

theorem sessionSlots_eq :
    sessionSlots = place 0 (contextMembers.take 6) ++
      (slacSlots ++ [⟨.recvBuffer, 79, 2048⟩, ⟨.recvBufferLen, 2128, 4⟩]) :=
  place_append 0 (contextMembers.take 6) (sessionMembers.drop 6)

theorem contextSlots_eq :
    contextSlots = place 0 (contextMembers.take 6) ++
      [⟨.recvBuffer, 28, 2048⟩, ⟨.recvBufferLen, 2076, 4⟩] :=
  place_append 0 (contextMembers.take 6) (contextMembers.drop 6)

theorem slot_of_name {s t : Slot SessionField} (hs : s ∈ sessionSlots) (ht : t ∈ sessionSlots)
    (hname : s.name = t.name) : s = t :=
  List.inj_on_of_nodup_map (by decide : (sessionSlots.map Slot.name).Nodup) hs ht hname

theorem fieldsAgree_iff (image : ℕ → Byte) : FieldsAgree image ↔ Repeats image := by
  constructor
  · intro h
    have hbuffer := h ⟨.recvBuffer, 79, 2048⟩ (by decide) ⟨.recvBuffer, 28, 2048⟩ (by decide) rfl
    have hlen := h ⟨.recvBufferLen, 2128, 4⟩ (by decide) ⟨.recvBufferLen, 2076, 4⟩ (by decide) rfl
    rw [Slot.read_eq_iff] at hbuffer hlen
    exact ⟨hbuffer, hlen⟩
  · rintro ⟨hbuffer, hlen⟩ s hs c hc hname
    rw [contextSlots_eq, List.mem_append] at hc
    rcases hc with hc | hc
    · -- a member of the common beginning
      have hc' : c ∈ sessionSlots := by
        rw [sessionSlots_eq]
        exact List.mem_append_left _ hc
      rw [slot_of_name hs hc' hname]
    · rcases List.mem_pair.mp hc with rfl | rfl
      · rw [slot_of_name hs (by decide : ⟨.recvBuffer, 79, 2048⟩ ∈ sessionSlots) hname,
          Slot.read_eq_iff]
        exact hbuffer
      · rw [slot_of_name hs (by decide : ⟨.recvBufferLen, 2128, 4⟩ ∈ sessionSlots) hname,
          Slot.read_eq_iff]
        exact hlen

theorem Repeats.eq_of_end {image image' : ℕ → Byte} (h : Repeats image) (h' : Repeats image')
    (hend : ∀ i, 2076 ≤ i → i < 2127 → image' i = image i) :
    ∀ i, 28 ≤ i → i < 2127 → image' i = image i := by
  intro i hi hlt
  induction hk : 2127 - i using Nat.strong_induction_on generalizing i with
  | _ k ih =>
    by_cases hlast : 2076 ≤ i
    · exact hend i hlast hlt
    · have hnext := ih (2127 - (i + 51)) (by omega) (i + 51) (by omega) (by omega) rfl
      have hstep := h.1 (i - 28) (by omega)
      have hstep' := h'.1 (i - 28) (by omega)
      rw [show 79 + (i - 28) = i + 51 by omega, Nat.add_sub_cancel' hi] at hstep hstep'
      rw [← hstep, ← hstep', hnext]

/-- A write leaves the members that only `secc_session_t` has as they are. -/
def SparesSlac (image : ℕ → Byte) (w : Write Byte) : Prop :=
  ∀ s ∈ slacSlots, s.read (w.apply image) = s.read image

theorem slacSlots_eq : slacSlots =
    [⟨.slacCtx, 32, 8⟩, ⟨.slacIface, 40, 16⟩, ⟨.slacNmk, 56, 16⟩, ⟨.slacNid, 72, 7⟩] := by
  decide

theorem sparesSlac_iff (image : ℕ → Byte) (w : Write Byte) :
    SparesSlac image w ↔ w.Rewrites 32 79 image := by
  rw [← Write.apply_eq_iff, SparesSlac, slacSlots_eq]
  simp only [List.forall_mem_cons, Slot.read_eq_iff]
  constructor
  · rintro ⟨hctx, hiface, hnmk, hnid, -⟩ i hstart hstop
    by_cases h40 : i < 40
    · have := hctx (i - 32) (by omega)
      rwa [show 32 + (i - 32) = i by omega] at this
    · by_cases h56 : i < 56
      · have := hiface (i - 40) (by omega)
        rwa [show 40 + (i - 40) = i by omega] at this
      · by_cases h72 : i < 72
        · have := hnmk (i - 56) (by omega)
          rwa [show 56 + (i - 56) = i by omega] at this
        · have := hnid (i - 72) (by omega)
          rwa [show 72 + (i - 72) = i by omega] at this
  · intro h
    refine ⟨?_, ?_, ?_, ?_, by simp⟩
    all_goals
      intro i hi
      apply h <;> omega

end EvseIso15118
