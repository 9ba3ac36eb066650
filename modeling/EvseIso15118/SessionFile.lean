import EvseIso15118.JsonRecord
import EvseIso15118.SeccLog

namespace EvseIso15118

open Json

/-- The arguments of `secc_log_write_session_file`; `none` is a null pointer. -/
structure SessionFileArgs where
  sessionId : UInt32
  stateName : List Byte
  clientIp : Option (List Byte)
  clientPort : ℤ
  transportMode : Option (List Byte)
  evccId : Option (List Byte)
  messagesSent : ℤ
  messagesRecv : ℤ

namespace SessionFileArgs

variable (args : SessionFileArgs)

def clientIpText : List Byte := args.clientIp.getD (asciiBytes "0.0.0.0")

def transportModeText : List Byte := args.transportMode.getD (asciiBytes "TCP")

def evccIdText : List Byte := args.evccId.getD (asciiBytes "UNKNOWN")

def text : List Byte :=
  asciiBytes "\x7b\n" ++
  (asciiBytes "  \"sessionId\": " ++ decimal args.sessionId.toNat ++ asciiBytes ",\n") ++
  (asciiBytes "  \"state\": \"" ++ args.stateName ++ asciiBytes "\",\n") ++
  asciiBytes "  \"stateDurationMs\": 5000,\n" ++
  (asciiBytes "  \"clientIp\": \"" ++ args.clientIpText ++ asciiBytes "\",\n") ++
  (asciiBytes "  \"clientPort\": " ++ integer args.clientPort ++ asciiBytes ",\n") ++
  (asciiBytes "  \"transportMode\": \"" ++ args.transportModeText ++ asciiBytes "\",\n") ++
  (asciiBytes "  \"evccId\": \"" ++ args.evccIdText ++ asciiBytes "\",\n") ++
  (asciiBytes "  \"messagesSent\": " ++ integer args.messagesSent ++ asciiBytes ",\n") ++
  (asciiBytes "  \"messagesReceived\": " ++ integer args.messagesRecv ++ asciiBytes "\n") ++
  asciiBytes "\x7d\n"

def members : List (List Byte × Field) :=
  [(asciiBytes "sessionId", .number args.sessionId.toNat),
    (asciiBytes "state", .text args.stateName),
    (asciiBytes "stateDurationMs", .number 5000),
    (asciiBytes "clientIp", .text args.clientIpText),
    (asciiBytes "clientPort", .number args.clientPort),
    (asciiBytes "transportMode", .text args.transportModeText),
    (asciiBytes "evccId", .text args.evccIdText),
    (asciiBytes "messagesSent", .number args.messagesSent),
    (asciiBytes "messagesReceived", .number args.messagesRecv)]

/-- None of the texts has a character that needs an escape. -/
def IsPlain : Prop :=
  Plain args.stateName ∧ Plain args.clientIpText ∧ Plain args.transportModeText ∧
    Plain args.evccIdText

set_option maxRecDepth 2000 in
theorem text_eq : args.text = recordText args.members := by
  have hduration : integer 5000 = asciiBytes "5000" := by
    norm_num [integer, decimal]
    rfl
  simp only [text, ← integer_natCast, recordText, members, List.map_cons, List.map_nil,
    List.intercalate_cons_cons, List.intercalate_singleton, List.append_assoc,
    List.cons_append, List.nil_append, memberLine_number_append, memberLine_text_append, hduration]
  rfl

theorem parse_text_iff : parse args.text = some (record args.members) ↔ args.IsPlain := by
  have hnames : args.members.map Prod.fst = ["sessionId", "state", "stateDurationMs", "clientIp",
      "clientPort", "transportMode", "evccId", "messagesSent", "messagesReceived"].map
        asciiBytes := rfl
  have hplain : ∀ key ∈ args.members.map Prod.fst, Plain key := by
    rw [hnames]
    simp [Plain, asciiBytes, Json.IsPlain, quote, backslash]
  have hne : args.members ≠ [] := List.cons_ne_nil _ _
  rw [text_eq, parse_record_iff hne fun m hm => hplain m.1 (List.mem_map_of_mem hm)]
  simp [members, Field.IsPlain, IsPlain]

end SessionFileArgs

/-- `secc_log_write_session_file`: whether the file can be opened, and what is in it before and
after. -/
def seccLogWriteSessionFile (file : List Byte) (call : Bool × SessionFileArgs) : List Byte :=
  if call.1 then call.2.text else file

def lastWritten (calls : List (Bool × SessionFileArgs)) : Option SessionFileArgs :=
  ((calls.filter Prod.fst).map Prod.snd).getLast?

/-- What `secc_log_export_state_json` prints. -/
def stateText (sessionId : UInt32) : List Byte :=
  asciiBytes "\x7b\n" ++
  (asciiBytes "  \"session_id\": " ++ decimal sessionId.toNat ++ asciiBytes ",\n") ++
  asciiBytes "  \"state\": \"CURRENT_DEMAND\",\n" ++
  asciiBytes "  \"state_duration_ms\": 5000,\n" ++
  asciiBytes "  \"client_ip\": \"192.168.1.100\",\n" ++
  asciiBytes "  \"client_port\": 54321,\n" ++
  asciiBytes "  \"transport_mode\": \"TLS\",\n" ++
  asciiBytes "  \"evcc_id\": \"EV12345678\",\n" ++
  asciiBytes "  \"messages_sent\": 42,\n" ++
  asciiBytes "  \"messages_received\": 41\n" ++
  asciiBytes "\x7d\n"

/-- `secc_log_export_state_json`: the string in `buffer[2048]`. -/
def seccLogExportStateJson (sessionId : UInt32) : List Byte := (stateText sessionId).take 2047

def stateMembers (sessionId : UInt32) : List (List Byte × Field) :=
  [(asciiBytes "session_id", .number sessionId.toNat),
    (asciiBytes "state", .text (asciiBytes "CURRENT_DEMAND")),
    (asciiBytes "state_duration_ms", .number 5000),
    (asciiBytes "client_ip", .text (asciiBytes "192.168.1.100")),
    (asciiBytes "client_port", .number 54321),
    (asciiBytes "transport_mode", .text (asciiBytes "TLS")),
    (asciiBytes "evcc_id", .text (asciiBytes "EV12345678")),
    (asciiBytes "messages_sent", .number 42),
    (asciiBytes "messages_received", .number 41)]

theorem length_decimal_le {n k : ℕ} (hk : 0 < k) (hn : n < 10 ^ k) : (decimal n).length ≤ k := by
  unfold decimal
  split_ifs with hzero
  · exact hk
  · rw [List.length_reverse, List.length_map]
    exact (Nat.digits_length_le_iff (by decide) n).mpr hn

theorem seccLogExportStateJson_eq (sessionId : UInt32) :
    seccLogExportStateJson sessionId = stateText sessionId := by
  apply List.take_of_length_le
  have hdigits : (decimal sessionId.toNat).length ≤ 10 := by
    apply length_decimal_le (by decide)
    exact sessionId.toNat_lt.trans (by decide)
  have hzero : (stateText 0).length ≤ 300 := by decide +kernel
  simp only [stateText, List.length_append] at hzero ⊢
  omega

set_option maxRecDepth 2000 in
theorem stateText_eq (sessionId : UInt32) :
    stateText sessionId = recordText (stateMembers sessionId) := by
  have hnumbers : integer 5000 = asciiBytes "5000" ∧ integer 54321 = asciiBytes "54321" ∧
      integer 42 = asciiBytes "42" ∧ integer 41 = asciiBytes "41" := by
    norm_num [integer, decimal]
    exact ⟨rfl, rfl, rfl, rfl⟩
  simp only [stateText, ← integer_natCast, recordText, stateMembers, List.map_cons, List.map_nil,
    List.intercalate_cons_cons, List.intercalate_singleton, List.append_assoc,
    List.cons_append, List.nil_append, memberLine_number_append, memberLine_text_append, hnumbers]
  rfl

theorem parse_stateText (sessionId : UInt32) :
    parse (stateText sessionId) = some (record (stateMembers sessionId)) := by
  have hnames : (stateMembers sessionId).map Prod.fst = ["session_id", "state",
      "state_duration_ms", "client_ip", "client_port", "transport_mode", "evcc_id",
      "messages_sent", "messages_received"].map asciiBytes := rfl
  have hplain : ∀ key ∈ (stateMembers sessionId).map Prod.fst, Plain key := by
    rw [hnames]
    simp [Plain, asciiBytes, Json.IsPlain, quote, backslash]
  have hne : stateMembers sessionId ≠ [] := List.cons_ne_nil _ _
  have htexts : ∀ s ∈ ["CURRENT_DEMAND", "192.168.1.100", "TLS", "EV12345678"].map asciiBytes,
      Plain s := by
    simp [Plain, asciiBytes, Json.IsPlain, quote, backslash]
  rw [stateText_eq, parse_record_iff hne fun m hm => hplain m.1 (List.mem_map_of_mem hm)]
  simpa [stateMembers, Field.IsPlain] using htexts

/-- After any calls the file is that of the last one that could write it. A parser reads it as it
is meant exactly if none of the texts given to that call needs an escape; the exported state is
read for every session. -/
theorem dashboard_files_iff (file : List Byte) (calls : List (Bool × SessionFileArgs))
    (sessionId : UInt32) :
    (∀ args ∈ lastWritten calls,
      (parse (calls.foldl seccLogWriteSessionFile file) = some (record args.members) ↔
        args.IsPlain)) ∧
    (lastWritten calls = none → calls.foldl seccLogWriteSessionFile file = file) ∧
    parse (seccLogExportStateJson sessionId) = some (record (stateMembers sessionId)) := by
  have hfile : calls.foldl seccLogWriteSessionFile file =
      (lastWritten calls).elim file SessionFileArgs.text := by
    induction calls using List.reverseRecOn with
    | nil => rfl
    | append_singleton calls call ih =>
      rw [List.foldl_append, List.foldl_cons, List.foldl_nil, ih, lastWritten, lastWritten,
        List.filter_append, List.map_append, seccLogWriteSessionFile]
      rcases call with ⟨opens, args⟩
      cases opens with
      | true => simp
      | false => simp
  rw [hfile]
  refine ⟨?_, ?_, ?_⟩
  · intro args hargs
    rw [Option.mem_def.mp hargs]
    exact args.parse_text_iff
  · intro hnone
    rw [hnone]
    rfl
  · rw [seccLogExportStateJson_eq]
    exact parse_stateText sessionId

end EvseIso15118
