import EvseIso15118.Octets

namespace EvseIso15118

def homeplugEthertype : UInt16 := 0x88E1

def mmeCmSlacParmReq : UInt16 := 0x6064

def mmeCmSlacParmCnf : UInt16 := 0x6065

def mmeCmStartAttenInd : UInt16 := 0x606A

def mmeCmMnbcSoundInd : UInt16 := 0x6074

def mmeCmAttenCharInd : UInt16 := 0x606E

def mmeCmAttenCharRsp : UInt16 := 0x606F

def mmeCmValidateReq : UInt16 := 0x6078

def mmeCmValidateCnf : UInt16 := 0x6079

def mmeCmSlacMatchReq : UInt16 := 0x607C

def mmeCmSlacMatchCnf : UInt16 := 0x607D

/-- `sizeof(EthMMEHeader)`. -/
def ethMmeHeaderLen : ℕ := 18

def numSounds : ℕ := 10

abbrev Mac := Octets 6

def broadcastAddr : Mac := fun _ => 0xFF

def zeros (n : ℕ) : List Byte := List.replicate n 0

@[simp] theorem zeros_length (n : ℕ) : (zeros n).length = n := List.length_replicate

def macId (mac : Mac) : List Byte := List.ofFn mac ++ zeros 11

@[simp] theorem macId_length (mac : Mac) : (macId mac).length = 17 := by
  simp [macId]

def buildHdr (dst src : Mac) (mmtype : UInt16) : List Byte :=
  List.ofFn dst ++ List.ofFn src ++ be16Bytes homeplugEthertype ++ [0x01] ++ le16Bytes mmtype ++
    [0x00]

@[simp] theorem buildHdr_length (dst src : Mac) (mmtype : UInt16) :
    (buildHdr dst src mmtype).length = 18 := by
  simp [buildHdr, be16Bytes, le16Bytes]

def cmSlacParmReq (localMac : Mac) (runId : Octets 8) : List Byte :=
  buildHdr broadcastAddr localMac mmeCmSlacParmReq ++ [0x00, 0x00] ++ List.ofFn runId ++ zeros 2

def cmSlacParmCnf (evMac localMac : Mac) (runId : Octets 8) : List Byte :=
  buildHdr evMac localMac mmeCmSlacParmCnf ++ List.ofFn broadcastAddr ++ [10, 6, 0x01] ++
    List.ofFn localMac ++ [0x00, 0x00] ++ List.ofFn runId

def cmStartAttenInd (localMac : Mac) (runId : Octets 8) : List Byte :=
  buildHdr broadcastAddr localMac mmeCmStartAttenInd ++ [0x00, 0x00, 10, 6, 0x01] ++
    List.ofFn localMac ++ List.ofFn runId

def cmMnbcSoundInd (localMac : Mac) (runId : Octets 8) (cnt : Byte) : List Byte :=
  buildHdr broadcastAddr localMac mmeCmMnbcSoundInd ++ [0x00, 0x00] ++ macId localMac ++ [cnt] ++
    List.ofFn runId ++ zeros 8

def cmAttenCharInd (evMac localMac : Mac) (runId : Octets 8) (soundCount : Byte)
    (aag : Octets 58) : List Byte :=
  buildHdr evMac localMac mmeCmAttenCharInd ++ [0x00, 0x00] ++ List.ofFn localMac ++
    List.ofFn runId ++ macId localMac ++ macId evMac ++ [soundCount, 58] ++ List.ofFn aag

def cmAttenCharRsp (evseMac localMac : Mac) (runId : Octets 8) : List Byte :=
  buildHdr evseMac localMac mmeCmAttenCharRsp ++ [0x00, 0x00] ++ List.ofFn evseMac ++
    List.ofFn runId ++ macId evseMac ++ macId localMac ++ [0x00]

def cmValidateReq (evseMac localMac : Mac) : List Byte :=
  buildHdr evseMac localMac mmeCmValidateReq ++ [0x00, 0x00, 0x00]

def cmValidateCnf (evMac localMac : Mac) : List Byte :=
  buildHdr evMac localMac mmeCmValidateCnf ++ [0x00, 0x00, 0x00]

def cmSlacMatchReq (evseMac localMac : Mac) (runId : Octets 8) : List Byte :=
  buildHdr evseMac localMac mmeCmSlacMatchReq ++ [0x00, 0x00] ++ le16Bytes 0x003E ++ zeros 17 ++
    List.ofFn localMac ++ zeros 17 ++ List.ofFn evseMac ++ List.ofFn runId ++ zeros 8

def cmSlacMatchCnf (evMac localMac : Mac) (runId : Octets 8) (nmk : Octets 16) (nid : Octets 7) :
    List Byte :=
  buildHdr evMac localMac mmeCmSlacMatchCnf ++ [0x00, 0x00] ++ le16Bytes 0x003E ++ zeros 17 ++
    List.ofFn evMac ++ zeros 17 ++ List.ofFn localMac ++ List.ofFn runId ++ zeros 8 ++
    List.ofFn nmk ++ List.ofFn nid

/-- `buf[i]`. -/
def octetAt (buf : Octets 2048) (i : ℕ) : Byte := if h : i < 2048 then buf ⟨i, h⟩ else 0

/-- The `n` bytes of the buffer from `off`. -/
def field (buf : Octets 2048) (off n : ℕ) : Octets n := fun i => octetAt buf (off + i)

/-- `recv(fd, buf, sizeof(buf), 0)`: bytes past the end of the buffer are lost, the buffer
keeps what the frame does not cover. -/
def recvInto (buf : Octets 2048) (data : List Byte) : Octets 2048 :=
  fun i => if i.val < data.length then byteAt data i.val else buf i

theorem octetAt_recvInto {buf : Octets 2048} {data : List Byte} {i : ℕ} (h : i < data.length)
    (hi : i < 2048) : octetAt (recvInto buf data) i = byteAt data i := by
  rw [octetAt, dif_pos hi, recvInto, if_pos h]

theorem octetAt_recvInto_stale {buf : Octets 2048} {data : List Byte} {i : ℕ}
    (h : data.length ≤ i) : octetAt (recvInto buf data) i = octetAt buf i := by
  unfold octetAt
  split_ifs with hi
  · exact if_neg (not_lt.mpr h)
  · rfl

theorem octetAt_const (b : Byte) {i : ℕ} (h : i < 2048) : octetAt (fun _ => b) i = b := by
  rw [octetAt, dif_pos h]

theorem field_recvInto_congr {buf buf' : Octets 2048} {data : List Byte} {off n : ℕ}
    (h : off + n ≤ data.length) (hn : off + n ≤ 2048) :
    field (recvInto buf data) off n = field (recvInto buf' data) off n := by
  funext i
  have hi := i.isLt
  rw [field, field, octetAt_recvInto (by omega) (by omega), octetAt_recvInto (by omega) (by omega)]

theorem byteAt_ofFn {n : ℕ} (x : Octets n) (i : Fin n) : byteAt (List.ofFn x) i = x i := by
  rw [byteAt_of_lt (by simp)]
  simp

theorem field_recvInto {n : ℕ} (x : Octets n) (buf : Octets 2048) (pre post : List Byte)
    {off : ℕ} (hoff : pre.length = off) (hn : off + n ≤ 2048) :
    field (recvInto buf (pre ++ List.ofFn x ++ post)) off n = x := by
  subst hoff
  funext i
  have hi := i.isLt
  rw [field, octetAt_recvInto (by simp; omega) (by omega),
    byteAt_append_left post (by simp), byteAt_append_right _ (by omega),
    Nat.add_sub_cancel_left, byteAt_ofFn]

/-- `recv_frame`: the message type if the return value is positive, and the buffer. -/
def recvFrame (buf : Octets 2048) : Option (List Byte) → Option UInt16 × Octets 2048
  | none => (none, buf)
  | some data =>
    let buf := recvInto buf data
    if min data.length 2048 < ethMmeHeaderLen then (none, buf)
    else if be16 (octetAt buf 12) (octetAt buf 13) ≠ homeplugEthertype then (none, buf)
    else (some (le16 (octetAt buf 15) (octetAt buf 16)), buf)

/-- The message type of a frame that `recv_frame` takes. -/
def frameType (data : List Byte) : Option UInt16 :=
  if data.length < 18 then none
  else if be16 (byteAt data 12) (byteAt data 13) ≠ homeplugEthertype then none
  else some (le16 (byteAt data 15) (byteAt data 16))

theorem recvFrame_some (buf : Octets 2048) (data : List Byte) :
    recvFrame buf (some data) = (frameType data, recvInto buf data) := by
  have hlen : min data.length 2048 < ethMmeHeaderLen ↔ data.length < 18 := by
    unfold ethMmeHeaderLen
    omega
  simp only [recvFrame, frameType, hlen]
  by_cases h : data.length < 18
  · simp only [if_pos h]
  · simp only [if_neg h]
    rw [octetAt_recvInto (by omega) (by omega), octetAt_recvInto (by omega) (by omega),
      octetAt_recvInto (by omega) (by omega), octetAt_recvInto (by omega) (by omega)]
    split_ifs <;> rfl

theorem frameType_buildHdr (dst src : Mac) (mmtype : UInt16) (body : List Byte) :
    frameType (buildHdr dst src mmtype ++ body) = some mmtype := by
  -- the bytes behind the two addresses
  have h12 : ∀ i < 6, byteAt (buildHdr dst src mmtype ++ body) (12 + i) =
      byteAt (be16Bytes homeplugEthertype ++ [0x01] ++ le16Bytes mmtype ++ [0x00]) i := by
    intro i hi
    have hl : (List.ofFn dst ++ List.ofFn src).length = 12 := by simp
    rw [byteAt_append_left body (by simp; omega), buildHdr]
    simp only [List.append_assoc]
    rw [← List.append_assoc (List.ofFn dst), byteAt_append_right _ (by omega), hl,
      Nat.add_sub_cancel_left]
  unfold frameType
  rw [if_neg (by simp), h12 0 (by decide), h12 1 (by decide), h12 3 (by decide),
    h12 4 (by decide)]
  have heth : be16 (byteAt (be16Bytes homeplugEthertype ++ [0x01] ++ le16Bytes mmtype ++ [0x00]) 0)
      (byteAt (be16Bytes homeplugEthertype ++ [0x01] ++ le16Bytes mmtype ++ [0x00]) 1) =
        homeplugEthertype := be16_be16Bytes homeplugEthertype
  have htype : le16 (byteAt (be16Bytes homeplugEthertype ++ [0x01] ++ le16Bytes mmtype ++ [0x00]) 3)
      (byteAt (be16Bytes homeplugEthertype ++ [0x01] ++ le16Bytes mmtype ++ [0x00]) 4) =
        mmtype := be16_be16Bytes mmtype
  rw [if_neg (not_not.mpr heth), htype]

end EvseIso15118
