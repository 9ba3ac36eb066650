import EvseIso15118.Mutex
import EvseIso15118.SeccLogFile

namespace EvseIso15118

open Mutex

/-- A call; for a positive number of entries of an array that is not null. -/
inductive SeccLogOp
  | log (args : SeccLogArgs)
  | getRecent (entries : List SeccLogEntry) (maxEntries : ℤ) (pos : 0 < maxEntries)

/-- Where a call is in its section, with the variables it goes on with. -/
inductive SeccLogPoint
  | index (args : SeccLogArgs)
  | store (args : SeccLogArgs) (index : ℤ)
  | head (args : SeccLogArgs)
  | count (args : SeccLogArgs)
  | separator (args : SeccLogArgs)
  | first (args : SeccLogArgs)
  | print (lines : List (List Byte))
  | recentCount (entries : List SeccLogEntry) (maxEntries : ℤ)
  | recent (entries : List SeccLogEntry) (count readPos : ℤ) (i : ℕ)

def logLines (e : SeccLogEntry) : List (List Byte) :=
  [asciiBytes "  \x7b\n",
    asciiBytes "    \"timestamp_ms\": " ++ Json.decimal e.timestampMs.toNat ++ asciiBytes ",\n",
    asciiBytes "    \"level\": \"" ++ getLevelName e.level ++ asciiBytes "\",\n",
    asciiBytes "    \"category\": \"" ++ getCategoryName e.category ++ asciiBytes "\",\n",
    asciiBytes "    \"session_id\": " ++ Json.decimal e.sessionId.toNat ++ asciiBytes ",\n",
    asciiBytes "    \"component\": \"" ++ e.component ++ asciiBytes "\",\n",
    asciiBytes "    \"message\": \"" ++ e.message ++ asciiBytes "\"\n",
    asciiBytes "  \x7d"]

def seccLogStatement (s : SeccLogState) : SeccLogPoint → Option (SeccLogState × SeccLogPoint)
  | .index args => some (s, .store args s.buffer.head)
  | .store args index =>
    some ({ s with buffer.entries := Function.update s.buffer.entries index args.entry },
      .head args)
  | .head args =>
    some ({ s with buffer.head := RingBuffer.next seccLogBufferSize s.buffer.head }, .count args)
  | .count args =>
    if s.buffer.count < seccLogBufferSize then
      some ({ s with buffer.count := s.buffer.count + 1 }, .separator args)
    else
      some ({ s with buffer.tail := RingBuffer.next seccLogBufferSize s.buffer.tail },
        .separator args)
  | .separator args =>
    if s.fileOpen then
      some ({ s with file := s.file ++ if s.first then [] else asciiBytes ",\n" }, .first args)
    else some (s, .print [])
  | .first args => some ({ s with first := false }, .print (logLines args.entry))
  | .print [] => none
  | .print (line :: lines) => some ({ s with file := s.file ++ line }, .print lines)
  | .recentCount entries maxEntries =>
    let count := if s.buffer.count < maxEntries then s.buffer.count else maxEntries
    some (s, .recent entries count s.buffer.tail 0)
  | .recent entries count readPos i =>
    if i < count then
      some (s, .recent (overwrite entries i [s.buffer.entries readPos]) count
        (RingBuffer.next seccLogBufferSize readPos) (i + 1))
    else none

def seccLogSections : Sections SeccLogOp SeccLogState SeccLogPoint where
  -- `if (!g_log_initialized) return`, without the lock
  admits s _ := s.initialized
  enter
    | .log args => .index args
    | .getRecent entries maxEntries _ => .recentCount entries maxEntries
  step := seccLogStatement

def SeccLogOp.calls : SeccLogOp → List SeccLogCall
  | .log args => [.log args]
  | .getRecent _ _ _ => []

/-- What `secc_log_get_recent` returns, and leaves in the array. -/
def SeccLogPoint.returns : SeccLogPoint → ℤ × Option (List SeccLogEntry)
  | .recent entries k _ _ => (k, some entries)
  | _ => (0, none)

/-- What a call returns on a logger. -/
def SeccLogOp.Returns : SeccLogOp → SeccLogState → SeccLogPoint → Prop
  | .log _, _, _ => True
  | .getRecent entries maxEntries _, s, x =>
    x.returns = seccLogGetRecent s (some entries) maxEntries

section whole
variable {s t : SeccLogState} {x : SeccLogPoint}

theorem logLines_flatten (e : SeccLogEntry) : (logLines e).flatten = logObject e := by
  simp [logLines, logObject]

theorem whole_print (lines : List (List Byte))
    (h : Whole seccLogSections (s, .print lines) (t, x)) :
    t = { s with file := s.file ++ lines.flatten } := by
  induction lines generalizing s with
  | nil =>
    cases (whole_of_none rfl).mp h
    rw [List.flatten_nil, List.append_nil]
  | cons line lines ih =>
    have hrest := ih ((whole_of_step rfl).mp h)
    rw [hrest, List.flatten_cons, List.append_assoc]

theorem statement_count (args : SeccLogArgs) :
    seccLogStatement { s with buffer := { s.buffer with
        entries := Function.update s.buffer.entries s.buffer.head args.entry
        head := RingBuffer.next seccLogBufferSize s.buffer.head } } (.count args) =
      some ({ s with buffer := s.buffer.push seccLogBufferSize args.entry }, .separator args) := by
  unfold seccLogStatement RingBuffer.push
  dsimp only
  split_ifs <;> rfl

theorem whole_log {args : SeccLogArgs} (hinit : s.initialized = true)
    (h : Whole seccLogSections (s, .index args) (t, x)) : t = seccLog s args := by
  have hstore := (whole_of_step rfl).mp h
  have hhead := (whole_of_step rfl).mp hstore
  have hcount := (whole_of_step rfl).mp hhead
  have hpushed := (whole_of_step (statement_count args)).mp hcount
  unfold seccLog
  rw [if_neg (not_not.mpr hinit)]
  by_cases hopen : s.fileOpen = true
  · have hseparator := (whole_of_step (if_pos hopen)).mp hpushed
    have hprint := whole_print _ ((whole_of_step rfl).mp hseparator)
    rw [if_pos hopen, hprint, logLines_flatten]
  · have hprint := whole_print _ ((whole_of_step (if_neg hopen)).mp hpushed)
    rw [if_neg hopen, hprint, List.flatten_nil, List.append_nil]

theorem overwrite_nil {α : Type} (dst : List α) (off : ℕ) : overwrite dst off [] = dst := by
  simp [overwrite]

theorem overwrite_overwrite {α : Type} (dst : List α) (off : ℕ) (a : α) (src : List α) :
    overwrite (overwrite dst off [a]) (off + 1) src = overwrite dst off (a :: src) := by
  have hfront : (overwrite dst off [a]).take (off + 1) = dst.take off ++ [a] := by
    unfold overwrite
    by_cases hoff : off ≤ dst.length
    · apply List.take_left'
      rw [List.length_append, List.length_take, List.length_singleton]
      omega
    · have hrest : dst.drop (off + [a].length) = [] := by
        apply List.drop_of_length_le
        rw [List.length_singleton]
        omega
      rw [hrest, List.append_nil]
      apply List.take_of_length_le
      rw [List.length_append, List.length_take, List.length_singleton]
      omega
  have hback : (overwrite dst off [a]).drop (off + 1 + src.length) =
      dst.drop (off + (a :: src).length) := by
    have hsplit : (overwrite dst off [a]).drop (off + 1) = dst.drop (off + 1) := by
      have hwhole := List.take_append_drop (off + 1) (overwrite dst off [a])
      rw [hfront] at hwhole
      exact List.append_cancel_left hwhole
    rw [← List.drop_drop, hsplit, List.drop_drop, List.length_cons, Nat.add_assoc,
      Nat.add_comm 1 src.length]
  rw [overwrite, hfront, hback, overwrite, List.append_assoc, List.append_assoc,
    List.append_assoc]
  rfl

theorem whole_recent {entries : List SeccLogEntry} {k readPos : ℤ} {i n : ℕ} (hk : k = i + n)
    (h : Whole seccLogSections (s, .recent entries k readPos i) (t, x)) :
    t = s ∧ x.returns = (k, some (overwrite entries i (s.buffer.readFrom seccLogBufferSize n
      readPos))) := by
  induction n generalizing entries readPos i with
  | zero =>
    have hstop : ¬(i : ℤ) < k := by omega
    cases (whole_of_none (if_neg hstop)).mp h
    refine ⟨rfl, ?_⟩
    rw [RingBuffer.readFrom, overwrite_nil]
    rfl
  | succ n ih =>
    have hgo : (i : ℤ) < k := by omega
    have hrest := ih (by push_cast at hk ⊢; omega) ((whole_of_step (if_pos hgo)).mp h)
    rw [overwrite_overwrite] at hrest
    exact hrest

theorem whole_getRecent {entries : List SeccLogEntry} {maxEntries : ℤ} (hpos : 0 < maxEntries)
    (hinit : s.initialized = true) (hcount : 0 ≤ s.buffer.count)
    (h : Whole seccLogSections (s, .recentCount entries maxEntries) (t, x)) :
    t = s ∧ x.returns = seccLogGetRecent s (some entries) maxEntries := by
  have hnonneg : 0 ≤ if s.buffer.count < maxEntries then s.buffer.count else maxEntries := by
    split_ifs <;> omega
  obtain ⟨n, hn⟩ := Int.eq_ofNat_of_zero_le hnonneg
  have hloop := (whole_of_step rfl).mp h
  have hread := @whole_recent _ _ _ _ _ _ _ n (by rw [hn]; simp) hloop
  refine ⟨hread.1, ?_⟩
  have hguard : ¬(¬s.initialized = true ∨ some entries = none ∨ maxEntries ≤ 0) := by
    simp [hinit, hpos]
  rw [hread.2, seccLogGetRecent, if_neg hguard, hn]
  rfl

/-- An active logger that keeps what it is given. -/
def SeccLogState.Active (s : SeccLogState) : Prop := ∃ logged, s.Follows ⟨true, logged⟩

/-- A section changes the logger and returns as a call by itself. -/
theorem whole_section {op : SeccLogOp} (hactive : s.Active)
    (h : Whole seccLogSections (s, seccLogSections.enter op) (t, x)) :
    t = s.run op.calls ∧ t.Active ∧ op.Returns s x := by
  rcases hactive with ⟨logged, hfollows⟩
  have hinit : s.initialized = true := hfollows.active
  have hcount : 0 ≤ s.buffer.count := by
    rw [hfollows.holds.count_eq]
    exact Int.natCast_nonneg _
  cases op with
  | log args =>
    have ht : t = seccLog s args := whole_log hinit h
    refine ⟨ht, ⟨logged ++ [args.entry], ?_⟩, trivial⟩
    rw [ht]
    exact hfollows.log args
  | getRecent entries maxEntries pos =>
    rcases whole_getRecent pos hinit hcount h with ⟨rfl, hreturns⟩
    exact ⟨rfl, ⟨logged, hfollows⟩, hreturns⟩

theorem statement_initialized {y : SeccLogPoint} (hs : s.initialized = true)
    (h : seccLogStatement s x = some (t, y)) : t.initialized = true := by
  unfold seccLogStatement at h
  split at h
  all_goals try split_ifs at h
  all_goals cases h
  all_goals exact hs

end whole

variable {τ : Type}

def loggedBy (done : List (Call τ SeccLogOp SeccLogPoint)) : List SeccLogCall :=
  done.flatMap fun d => d.op.calls

theorem foldl_calls (done : List (Call τ SeccLogOp SeccLogPoint)) (s : SeccLogState) :
    done.foldl (fun m d => m.run d.op.calls) s = s.run (loggedBy done) := by
  induction done generalizing s with
  | nil => rfl
  | cons d done ih =>
    rw [List.foldl_cons, ih, loggedBy, loggedBy, List.flatMap_cons]
    exact (List.foldl_append).symm

/-- However the statements of the threads alternate: with the lock free the logger is that of the
calls done so far one after the other, each `secc_log_get_recent` has returned what it returns at
its place among them, and every thread has made its calls in their order. A schedule only ends
with all of them done. -/
theorem secc_log_threads [DecidableEq τ] {file : List Byte} {calls : List SeccLogCall}
    {program : τ → List SeccLogOp} {ts : List τ} {c : Threads τ SeccLogOp SeccLogState SeccLogPoint}
    (hinit : ((SeccLogState.start file).run calls).initialized = true)
    (hrun : Transition.run (act seccLogSections)
      (start ((SeccLogState.start file).run calls) program) ts = some c) :
    c.shared.initialized = true ∧
    (c.holder = none → c.shared = (SeccLogState.start file).run (calls ++ loggedBy c.done)) ∧
    (∀ before d after, c.done = before ++ d :: after →
      d.op.Returns ((SeccLogState.start file).run (calls ++ loggedBy before)) d.result) ∧
    (∀ t, opsOf t c.done ++ c.current t ++ c.todo t = program t) ∧
    ((∀ t, act seccLogSections c t = none) →
      c.holder = none ∧ ∀ t, opsOf t c.done = program t) := by
  have hconsistent := Consistent.run (I := fun s : SeccLogState => s.initialized = true)
    (fun _ _ _ _ hs h => statement_initialized hs h) (fun _ _ hs => hs) hinit hrun
  have hactive : ((SeccLogState.start file).run calls).Active := by
    have hfollows := SeccLogState.follows_run file calls
    exact ⟨(LogHistory.run calls).logged, hinit, hfollows.open_iff, hfollows.holds⟩
  have happend : ∀ more, (SeccLogState.start file).run (calls ++ more) =
      ((SeccLogState.start file).run calls).run more := fun more => List.foldl_append
  rcases hconsistent.serial with ⟨m, hserial, hfree, -⟩
  rcases hserial.foldl (fun _ _ _ _ hs h => whole_section hs h) hactive with ⟨hm, -, hreturns⟩
  refine ⟨?_, ?_, ?_, hconsistent.order, hconsistent.finished⟩
  · exact hconsistent.invariant (fun _ _ _ _ hs h => statement_initialized hs h) hinit
  · intro hholder
    rw [hfree hholder, hm, foldl_calls, happend]
  · intro before d after hdone
    have hd := hreturns before d after hdone
    rwa [foldl_calls, ← happend] at hd

def twoLoggers (t : Bool) : List SeccLogOp := [.log (heartbeatArgs (if t then [0x61] else [0x62]))]

/-- The second thread has begun its call and waits while the first one has the lock. -/
def oneWaits : List Bool :=
  [true, true, false] ++ List.replicate 15 true ++ List.replicate 16 false

theorem secc_log_threads_two :
    ∃ c, Transition.run (act seccLogSections)
        (start ((SeccLogState.start []).run [.init true]) twoLoggers) oneWaits = some c ∧
      c.holder = none ∧ c.done.length = 2 ∧
      c.shared = (SeccLogState.start []).run ([.init true] ++ loggedBy c.done) := by
  have hrun : ∃ c ∈ Transition.run (act seccLogSections)
      (start ((SeccLogState.start []).run [.init true]) twoLoggers) oneWaits,
      c.holder.isNone = true ∧ c.done.length = 2 := by decide +kernel
  rcases hrun with ⟨c, hc, hholder, hlength⟩
  have hfree := Option.isNone_iff_eq_none.mp hholder
  exact ⟨c, hc, hfree, hlength, (secc_log_threads rfl hc).2.1 hfree⟩

end EvseIso15118
