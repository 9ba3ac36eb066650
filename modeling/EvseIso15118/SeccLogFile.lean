import EvseIso15118.JsonBounds
import EvseIso15118.SeccLog

namespace EvseIso15118

open Json

/-- The object that is meant for an entry. -/
def logEntryJson (e : SeccLogEntry) : Value :=
  .object [
    (asciiBytes "timestamp_ms", .number e.timestampMs.toNat 0),
    (asciiBytes "level", .string (getLevelName e.level)),
    (asciiBytes "category", .string (getCategoryName e.category)),
    (asciiBytes "session_id", .number e.sessionId.toNat 0),
    (asciiBytes "component", .string e.component),
    (asciiBytes "message", .string e.message)]

/-- Neither text of the entry has a character that needs an escape. -/
def SeccLogEntry.IsPlain (e : SeccLogEntry) : Prop := Plain e.component ∧ Plain e.message

instance (e : SeccLogEntry) : Decidable e.IsPlain :=
  inferInstanceAs (Decidable (Plain e.component ∧ Plain e.message))

theorem nodup_levelNames :
    ([.debug, .info, .warn, .error, .critical].map getLevelName).Nodup := by
  decide +kernel

theorem nodup_categoryNames :
    ([.main, .session, .transport, .v2g, .stateMachine, .exi, .simulator, .security].map
      getCategoryName).Nodup := by
  decide +kernel

theorem plain_getLevelName (level : SeccLogLevel) : Plain (getLevelName level) := by
  cases level <;> simp [getLevelName, Plain, asciiBytes, IsPlain, quote, backslash]

theorem plain_getCategoryName (category : SeccLogCategory) : Plain (getCategoryName category) := by
  cases category <;> simp [getCategoryName, Plain, asciiBytes, IsPlain, quote, backslash]

theorem plain_keys : Plain (asciiBytes "timestamp_ms") ∧ Plain (asciiBytes "level") ∧
    Plain (asciiBytes "category") ∧ Plain (asciiBytes "session_id") ∧
    Plain (asciiBytes "component") ∧ Plain (asciiBytes "message") := by
  simp [Plain, asciiBytes, IsPlain, quote, backslash]

def memberLabel (key : List Byte) : List Byte :=
  0x0A :: 0x20 :: 0x20 :: 0x20 :: 0x20 :: quote :: (key ++ [quote, colon, 0x20])

theorem logObject_append (e : SeccLogEntry) (after : List Byte) :
    logObject e ++ after = 0x20 :: 0x20 :: 0x7B ::
      (memberLabel (asciiBytes "timestamp_ms") ++ (decimal e.timestampMs.toNat ++ comma ::
      (memberLabel (asciiBytes "level") ++ quote :: (getLevelName e.level ++ quote :: comma ::
      (memberLabel (asciiBytes "category") ++ quote ::
        (getCategoryName e.category ++ quote :: comma ::
      (memberLabel (asciiBytes "session_id") ++ (decimal e.sessionId.toNat ++ comma ::
      (memberLabel (asciiBytes "component") ++ quote :: (e.component ++ quote :: comma ::
      (memberLabel (asciiBytes "message") ++ quote :: (e.message ++ quote ::
        0x0A :: 0x20 :: 0x20 :: 0x7D :: after)))))))))))) := by
  simp only [logObject, List.append_assoc]
  rfl

section
variable {key rest : List Byte} {d : ℕ}

theorem expect_memberLabel (key after : List Byte) :
    expect quote (memberLabel key ++ after) = some (key ++ quote :: colon :: 0x20 :: after) := by
  rw [memberLabel, List.cons_append, List.cons_append, List.cons_append, List.cons_append,
    List.cons_append, List.cons_append, List.append_assoc]
  rfl

/-- A line `"key": n` and the comma after it. -/
theorem reads_numberLine (hkey : Plain key) (n : ℕ) :
    Reads (parseMember (parseValue (d + 1))) (memberLabel key ++ (decimal n ++ comma :: rest))
      (key, .number n 0) True (comma :: rest) :=
  Reads.member hkey (expect_memberLabel key _) rfl
    (reads_decimal (by decide) (skipSpace_decimal n (comma :: rest)))

/-- A line `"key": "s"` -/
theorem reads_stringLine (hkey : Plain key) (s : List Byte)
    (hrest : ∀ n, parseChars n rest = none) :
    Reads (parseMember (parseValue (d + 1))) (memberLabel key ++ quote :: (s ++ quote :: rest))
      (key, .string s) (Plain s) rest :=
  Reads.member hkey (expect_memberLabel key _) rfl (reads_string rfl hrest)

end

theorem reads_logObject (e : SeccLogEntry) {lead : List Byte}
    (hlead : ∀ b ∈ lead, isSpace b = true) (after : List Byte) (d : ℕ) :
    Reads (parseValue (d + 2)) (lead ++ (logObject e ++ after)) (logEntryJson e) e.IsPlain
      after := by
  -- no string goes on over the end of a line
  have hcomma : ∀ (rest : List Byte) n, parseChars n (comma :: 0x0A :: rest) = none :=
    fun rest => parseChars_control (s := [comma]) (by decide +kernel) (by decide) rest
  have hend : ∀ n, parseChars n (0x0A :: 0x20 :: 0x20 :: 0x7D :: after) = none :=
    parseChars_control (s := []) (by decide +kernel) (by decide) _
  have hopen : ∀ rest, skipSpace (lead ++ 0x20 :: 0x20 :: 0x7B :: rest) = 0x7B :: rest := by
    intro rest
    rw [skipSpace, List.dropWhile_append_of_pos hlead]
    rfl
  rw [logObject_append]
  refine (Reads.object (hopen _) (Reads.list (Nat.le_add_left 6 _) rfl fun n => ?_)).congr
    (P := True ∧ Plain (getLevelName e.level) ∧ Plain (getCategoryName e.category) ∧ True ∧
      Plain e.component ∧ Plain e.message) ?_
  · obtain ⟨htimestampKey, hlevelKey, hcategoryKey, hsessionKey, hcomponentKey, hmessageKey⟩ :=
      plain_keys
    have hmessage := (reads_stringLine hmessageKey e.message hend (d := d)).last
      (rfl : expect 0x7D _ = some after) n
    have hcomponent := (reads_stringLine hcomponentKey e.component (hcomma _)).cons rfl rfl
      hmessage (List.cons_ne_nil _ _)
    have hsession := (reads_numberLine hsessionKey e.sessionId.toNat).cons rfl rfl
      hcomponent (List.cons_ne_nil _ _)
    have hcategory := (reads_stringLine hcategoryKey (getCategoryName e.category) (hcomma _)).cons
      rfl rfl hsession (List.cons_ne_nil _ _)
    have hlevel := (reads_stringLine hlevelKey (getLevelName e.level) (hcomma _)).cons rfl rfl
      hcategory (List.cons_ne_nil _ _)
    exact (reads_numberLine htimestampKey e.timestampMs.toNat).cons rfl rfl hlevel
      (List.cons_ne_nil _ _)
  · simp [SeccLogEntry.IsPlain, plain_getLevelName, plain_getCategoryName]

theorem parse_logObject_iff (e : SeccLogEntry) :
    parse (logObject e) = some (logEntryJson e) ↔ e.IsPlain := by
  have hreads := reads_logObject e (List.forall_mem_nil _) []
  rw [List.nil_append, List.append_nil] at hreads
  exact (hreads (logObject e).length).parse_iff (Nat.lt_add_of_pos_right two_pos) rfl

def logArgsJson (args : SeccLogArgs) : Value :=
  .object [
    (asciiBytes "timestamp_ms", .number (getTimestampMs args.now).toNat 0),
    (asciiBytes "level", .string (getLevelName args.level)),
    (asciiBytes "category", .string (getCategoryName args.category)),
    (asciiBytes "session_id", .number args.sessionId.toNat 0),
    (asciiBytes "component", .string args.component),
    (asciiBytes "message", .string args.text)]

theorem cString_eq_self {size : ℕ} {text : List Byte} (hzero : 0 ∉ text)
    (hlength : text.length ≤ size - 1) : cString size text = text := by
  have hall : ∀ b ∈ text, decide (b ≠ 0) = true := by
    intro b hb
    rw [decide_eq_true_eq]
    rintro rfl
    exact hzero hb
  rw [cString, List.takeWhile_eq_self_iff.mpr hall, List.take_of_length_le hlength]

/-- The object that is written for a call is read as the call was made if and only if neither
text needs an escape. -/
theorem seccLog_object_iff {s : SeccLogState} (hinit : s.initialized = true)
    (hopen : s.fileOpen = true) {args : SeccLogArgs} (htext : 0 ∉ args.text)
    (htextLength : args.text.length ≤ 511) (hcomponent : 0 ∉ args.component)
    (hcomponentLength : args.component.length ≤ 31) :
    ∃ object, (seccLog s args).file =
        s.file ++ (if s.first then [] else asciiBytes ",\n") ++ object ∧
      (parse object = some (logArgsJson args) ↔ Plain args.component ∧ Plain args.text) := by
  refine ⟨logObject args.entry, by simp [seccLog, hinit, hopen], ?_⟩
  have hmessage : args.entry.message = args.text := cString_eq_self htext htextLength
  have hcomponent' : args.entry.component = args.component :=
    cString_eq_self hcomponent hcomponentLength
  have hjson : logArgsJson args = logEntryJson args.entry := by
    rw [logArgsJson, logEntryJson, hmessage, hcomponent']
    rfl
  rw [hjson, parse_logObject_iff, SeccLogEntry.IsPlain, hmessage, hcomponent']

theorem seccLog_object_iff_plain :
    ∃ object, (seccLog ((SeccLogState.start []).call (.init true))
        (heartbeatArgs (asciiBytes "up"))).file = asciiBytes "[\n" ++ object ∧
      parse object = some (logArgsJson (heartbeatArgs (asciiBytes "up"))) := by
  obtain ⟨object, hfile, hparse⟩ := @seccLog_object_iff
    ((SeccLogState.start []).call (.init true)) rfl rfl
    (heartbeatArgs (asciiBytes "up")) (by decide) (by decide) (by decide) (by decide)
  exact ⟨object, hfile, hparse.mpr (by decide +kernel)⟩

def keysOf : Value → List (List Byte)
  | .object members => members.map Prod.fst
  | _ => []

/-- A message that ends its string adds a member of its own. -/
theorem seccLog_object_injected :
    let args := heartbeatArgs (asciiBytes "up\", \"level\": \"DEBUG")
    (parse (logObject args.entry)).map keysOf = some (["timestamp_ms", "level", "category",
      "session_id", "component", "message", "level"].map asciiBytes) ∧
    parse (logObject args.entry) ≠ some (logArgsJson args) := by
  intro args
  have hkeys : (parse (logObject args.entry)).map keysOf = some (["timestamp_ms", "level",
      "category", "session_id", "component", "message", "level"].map asciiBytes) := by
    decide +kernel
  refine ⟨hkeys, fun h => ?_⟩
  rw [h] at hkeys
  exact absurd hkeys (by decide +kernel)

def loggedOf (calls : List SeccLogCall) : List SeccLogEntry :=
  calls.filterMap fun
    | .log args => some args.entry
    | _ => none

/-- No entry is logged in these calls. -/
def NothingLogged (calls : List SeccLogCall) : Prop :=
  ∀ before args after, calls = before ++ .log args :: after →
    (LogHistory.run before).active = false

theorem nothingLogged_concat {calls : List SeccLogCall} {c : SeccLogCall} :
    NothingLogged (calls ++ [c]) ↔ NothingLogged calls ∧
      ∀ args, c = .log args → (LogHistory.run calls).active = false := by
  constructor
  · intro h
    refine ⟨fun before args after hcalls => h before args (after ++ [c]) (by simp [hcalls]), ?_⟩
    rintro args rfl
    exact h calls args [] rfl
  · rintro ⟨hcalls, hlast⟩ before args after h
    obtain rfl | ⟨after', d, rfl⟩ := List.eq_nil_or_concat' after
    · obtain ⟨rfl, hc⟩ := List.append_inj' h rfl
      exact hlast args (List.cons.inj hc).1
    · rw [← List.cons_append, ← List.append_assoc] at h
      exact hcalls before args after' (List.append_inj' h rfl).1

/-- The static variable of `secc_log` knows no cycles. -/
theorem first_run_iff (file : List Byte) (calls : List SeccLogCall) :
    ((SeccLogState.start file).run calls).first = true ↔ NothingLogged calls := by
  induction calls using List.reverseRecOn with
  | nil =>
    refine iff_of_true rfl fun before args after h => ?_
    simp at h
  | append_singleton calls c ih =>
    have hs := SeccLogState.follows_run file calls
    rw [SeccLogState.run, List.foldl_append, List.foldl_cons, List.foldl_nil]
    change (((SeccLogState.start file).run calls).call c).first = true ↔ _
    rw [nothingLogged_concat, ← ih]
    generalize (SeccLogState.start file).run calls = s at hs
    cases c with
    | init opens =>
      rw [SeccLogState.call, seccLogInit]
      split_ifs <;> simp
    | log args =>
      rw [SeccLogState.call, seccLog, hs.open_iff, hs.active]
      cases (LogHistory.run calls).active <;> simp
    | close =>
      rw [SeccLogState.call, seccLogClose]
      split_ifs <;> simp

/-- What `secc_log` writes of several entries. -/
def entriesText : Bool → List SeccLogEntry → List Byte
  | _, [] => []
  | first, e :: es =>
    (if first then [] else asciiBytes ",\n") ++ logObject e ++ entriesText false es

/-- The calls of a cycle, up to its close. -/
theorem run_cycle {s : SeccLogState} (hinit : s.initialized = true) (hopen : s.fileOpen = true)
    {calls : List SeccLogCall} (hcalls : ∀ c ∈ calls, c ≠ .close) :
    (s.run calls).initialized = true ∧ (s.run calls).fileOpen = true ∧
      (s.run calls).file = s.file ++ entriesText s.first (loggedOf calls) := by
  induction calls generalizing s with
  | nil => exact ⟨hinit, hopen, (List.append_nil _).symm⟩
  | cons c calls ih =>
    rw [List.forall_mem_cons] at hcalls
    cases c with
    | init opens =>
      have hcall : s.call (.init opens) = s := by
        rw [SeccLogState.call, seccLogInit, if_pos hinit]
      have hrest := ih hinit hopen hcalls.2
      rw [SeccLogState.run, List.foldl_cons, hcall]
      exact hrest
    | log args =>
      have hcall : s.call (.log args) =
          { s with
            buffer := s.buffer.push seccLogBufferSize args.entry
            file := s.file ++ (if s.first then [] else asciiBytes ",\n") ++ logObject args.entry
            first := false } := by
        rw [SeccLogState.call, seccLog, if_neg (not_not.mpr hinit), if_pos hopen]
      have hrest := @ih (s.call (.log args)) (by rw [hcall]; exact hinit)
        (by rw [hcall]; exact hopen) hcalls.2
      refine ⟨hrest.1, hrest.2.1, hrest.2.2.trans ?_⟩
      rw [hcall]
      simp only [loggedOf, List.filterMap_cons, entriesText, List.append_assoc]
    | close => exact absurd rfl hcalls.1

def entryText (e : SeccLogEntry) : List Byte := [0x0A] ++ logObject e

theorem reads_entryText (d : ℕ) (e : SeccLogEntry) (after : List Byte) :
    Reads (parseValue (d + 2)) (entryText e ++ after) (logEntryJson e) e.IsPlain after := by
  rw [entryText, List.append_assoc]
  exact reads_logObject e (List.forall_mem_singleton.mpr rfl) after d

theorem intercalate_entryText (e : SeccLogEntry) (es : List SeccLogEntry) :
    [comma].intercalate ((e :: es).map entryText) = entryText e ++ entriesText false es := by
  induction es generalizing e with
  | nil => rw [List.map_singleton, List.intercalate_singleton, entriesText, List.append_nil]
  | cons e' es ih =>
    rw [List.map_cons, List.intercalate_cons_of_ne_nil (by simp), ih, entriesText, entryText,
      entryText, List.append_assoc, List.append_assoc, List.append_assoc, List.append_assoc]
    rfl

theorem parse_file_iff (es : List SeccLogEntry) :
    parse (asciiBytes "[\n" ++ entriesText true es ++ asciiBytes "\n]\n") =
      some (.array (es.map logEntryJson)) ↔ ∀ e ∈ es, e.IsPlain := by
  cases es with
  | nil =>
    have hempty : parse [0x5B, 0x0A, 0x0A, 0x5D, 0x0A] = some (.array []) ↔ True :=
      Reads.parse_iff (Nat.lt_succ_self _) (Reads.array rfl (Reads.empty rfl)) rfl
    exact hempty.trans (iff_of_true trivial (List.forall_mem_nil _))
  | cons e es =>
    have htext : asciiBytes "[\n" ++ entriesText true (e :: es) ++ asciiBytes "\n]\n" =
        0x5B :: ([comma].intercalate ((e :: es).map entryText) ++ [0x0A, 0x5D, 0x0A]) := by
      rw [intercalate_entryText, entriesText, entryText]
      simp only [List.append_assoc]
      rfl
    have hfirst : expect 0x5D ([comma].intercalate ((e :: es).map entryText) ++
        [0x0A, 0x5D, 0x0A]) = none := by
      rw [intercalate_entryText, entryText, List.append_assoc, List.append_assoc, logObject_append]
      rfl
    have htexts : ∀ e, entryText e ≠ [] := fun e => List.cons_ne_nil 0x0A (logObject e)
    have hvalue := fun d => Reads.arrayOf (reads_entryText d) htexts (List.cons_ne_nil e es)
      hfirst rfl
    rw [htext]
    exact (hvalue _).parse_iff (Nat.lt_add_of_pos_right three_pos) rfl

theorem parse_file_comma (e : SeccLogEntry) (es : List SeccLogEntry) :
    parse (asciiBytes "[\n" ++ entriesText false (e :: es) ++ asciiBytes "\n]\n") = none := by
  rw [entriesText, List.append_assoc, List.append_assoc]
  rfl

theorem file_cycle {s : SeccLogState} (hidle : s.initialized = false) {calls : List SeccLogCall}
    (hcalls : ∀ c ∈ calls, c ≠ .close) :
    (((s.call (.init true)).run calls).call .close).file =
      asciiBytes "[\n" ++ entriesText s.first (loggedOf calls) ++ asciiBytes "\n]\n" := by
  have hinit : s.call (.init true) =
      { s with
        buffer := s.buffer.reset
        fileOpen := true
        file := asciiBytes "[\n"
        initialized := true } := by
    rw [SeccLogState.call, seccLogInit, hidle]
    rfl
  obtain ⟨hactive, hopen, hfile⟩ := @run_cycle (s.call (.init true)) (by rw [hinit])
    (by rw [hinit]) calls hcalls
  change (seccLogClose _).file = _
  rw [seccLogClose, if_neg (not_not.mpr hactive), if_pos hopen]
  dsimp only
  rw [hfile, hinit]

/-- The file of a cycle is the array of the entries of the cycle exactly if no entry has been
logged in an earlier cycle or none is in this one, and no entry of it needs an escape. -/
theorem logFile_wellFormed_iff (file : List Byte) {earlier calls : List SeccLogCall}
    (hidle : (LogHistory.run earlier).active = false) (hcalls : ∀ c ∈ calls, c ≠ .close) :
    parse ((SeccLogState.start file).run (earlier ++ .init true :: calls ++ [.close])).file =
        some (.array ((loggedOf calls).map logEntryJson)) ↔
      (NothingLogged earlier ∨ loggedOf calls = []) ∧ ∀ e ∈ loggedOf calls, e.IsPlain := by
  have hs := SeccLogState.follows_run file earlier
  have hrun : (SeccLogState.start file).run (earlier ++ .init true :: calls ++ [.close]) =
      ((((SeccLogState.start file).run earlier).call (.init true)).run calls).call .close := by
    simp only [SeccLogState.run, List.foldl_append, List.foldl_cons, List.foldl_nil]
  rw [hrun, file_cycle (hs.active.trans hidle) hcalls, ← first_run_iff file]
  cases hfirst : ((SeccLogState.start file).run earlier).first with
  | true => rw [parse_file_iff, and_iff_right (.inl rfl)]
  | false =>
    cases hlogged : loggedOf calls with
    | nil =>
      -- nothing is written between the brackets
      rw [and_iff_right (.inr rfl)]
      exact parse_file_iff []
    | cons e es =>
      rw [parse_file_comma]
      simp

/-- A call in front of the first cycle, and nothing in it. -/
def silentCycle : List SeccLogCall :=
  [.log (heartbeatArgs (asciiBytes "early")), .init true, .close]

def upAndDown : List SeccLogCall :=
  [.log (heartbeatArgs (asciiBytes "up")), .init true, .log (heartbeatArgs (asciiBytes "down"))]

theorem logFile_wellFormed_iff_silentCycle :
    parse ((SeccLogState.start []).run (silentCycle ++ .init true :: upAndDown ++ [.close])).file =
      some (.array [logEntryJson (heartbeatArgs (asciiBytes "up")).entry,
        logEntryJson (heartbeatArgs (asciiBytes "down")).entry]) :=
  (@logFile_wellFormed_iff [] silentCycle upAndDown (by decide)
    (by simp [upAndDown])).mpr ⟨.inl ((first_run_iff [] silentCycle).mp (by decide)),
      by decide +kernel⟩

/-- The second cycle starts its file with a comma. -/
theorem logFile_secondCycle :
    let cycle := [.init true, .log (heartbeatArgs (asciiBytes "up")), .close]
    parse ((SeccLogState.start []).run (cycle ++ cycle)).file = none :=
  parse_file_comma (heartbeatArgs (asciiBytes "up")).entry []

end EvseIso15118
