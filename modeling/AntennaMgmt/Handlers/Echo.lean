import AntennaMgmt.Handlers.Walk
import Mathlib.Data.List.DropRight

/-!
# Transparent messages and their echo

`send_transparent_paau_to_bbu` builds a transparent message of a target and a content, and
`transparent_msg_parse` takes it apart again.  A message from the BBU is answered with its own
content, without the zero bytes at its end, so that the answer to the answer is the answer.
-/

namespace AntennaMgmt.Handlers

open AntennaMgmt.Lib AntennaMgmt.Cpri

/-! ### Sending -/

/-- `MSG_TRANSPARENT_PAAU_TO_BBU_BASE`. -/
def msgTransparentPaauToBbuBase : ℕ := 221

/-- `MSG_TRANSPARENT_PAAU_TO_BBU_10`. -/
def msgTransparentPaauToBbu10 : ℕ := 230

/-- `MSG_TRANSPARENT_BBU_TO_PAAU_BASE`. -/
def msgTransparentBbuToPaauBase : ℕ := 231

/-- `MSG_TRANSPARENT_BBU_TO_PAAU_10`. -/
def msgTransparentBbuToPaau10 : ℕ := 240

/-- What the functions for transparent messages return. -/
inductive TransparentRet
  | success
  | errorGeneral
  | errorInvalidParam
  | errorNotInitialized
deriving DecidableEq, Repr

/-- The header of a message to the BBU: only its id is set. -/
def transparentHeader (msgId : ℕ) : CpriHeader := ⟨msgId, 0, 0, 0, 0, 0⟩

/-- The payload that `send_transparent_paau_to_bbu` writes. -/
def transparentPayload (targetId : UInt8) (content : Bytes) : Bytes :=
  leBytes 2 ieTransparentTarget.toNat ++ leBytes 2 (4 + 1) ++ [targetId] ++
    leBytes 2 ieTransparentContent.toNat ++ leBytes 2 (4 + content.length) ++ content

/-- `send_transparent_paau_to_bbu`: the result, and what is given to `tcp_client_send`.  The
content is `none` when the pointer is `NULL`. -/
def sendTransparentPaauToBbu (initialized : Bool) (msgId : ℕ) (targetId : UInt8)
    (content : Option Bytes) (contentLen : ℕ) : TransparentRet × Option Bytes :=
  if ¬ initialized then (.errorNotInitialized, none)
  else if msgId < msgTransparentPaauToBbuBase ∨ msgTransparentPaauToBbu10 < msgId then
    (.errorInvalidParam, none)
  else if transparentContentMaxLen < contentLen then (.errorInvalidParam, none)
  else if 0 < contentLen ∧ content = none then (.errorInvalidParam, none)
  else
    let payload := transparentPayload targetId ((content.getD []).take contentLen)
    match cpriEncodeMessage ⟨transparentHeader msgId, payload⟩
        (List.replicate (transparentContentMaxLen + 64) 0) with
    | some (len, buffer) => (.success, some (buffer.take len))
    | none => (.errorGeneral, none)

/-! ### Receiving -/

/-- The flags of the module. -/
structure TransparentCfg where
  initialized : Bool
  enable : Bool
  autoReply : Bool
deriving DecidableEq, Repr

/-- What the module does with a message: the result, the bytes forwarded to the FPGA and the
message sent to the BBU. -/
structure TransparentOutcome where
  ret : TransparentRet
  forwarded : Option Bytes
  reply : Option Bytes
deriving DecidableEq, Repr

/-- The content of a message without the zero bytes at its end. -/
def effectiveContent (transMsg : TransparentMessage) : Bytes :=
  transMsg.content.take transMsg.effectiveLen

/-- `handle_transparent_bbu_to_paau`; `fpgaSendRaw` is what the function of this name returns. -/
def handleTransparentBbuToPaau (cfg : TransparentCfg) (fpgaSendRaw : Bytes → TransparentRet)
    (msgId : ℕ) (transMsg : TransparentMessage) : TransparentOutcome :=
  if ¬ cfg.initialized then ⟨.errorNotInitialized, none, none⟩
  else
    let forwarded := if 0 < transMsg.effectiveLen then some (effectiveContent transMsg) else none
    let fpgaRet := forwarded.elim .success fpgaSendRaw
    if fpgaRet ≠ .success then ⟨fpgaRet, forwarded, none⟩
    else if ¬ cfg.autoReply then ⟨.success, forwarded, none⟩
    else
      let replyMsgId :=
        (msgTransparentPaauToBbuBase + (msgId - msgTransparentBbuToPaauBase)) % 65536
      let (ret, reply) := sendTransparentPaauToBbu cfg.initialized replyMsgId transMsg.targetId
        (some transMsg.content) transMsg.effectiveLen
      ⟨ret, forwarded, reply⟩

/-- `transparent_msg_handle`; a message without payload bytes has no payload pointer. -/
def transparentMsgHandle (cfg : TransparentCfg) (fpgaSendRaw : Bytes → TransparentRet)
    (msg : CpriMessage) : TransparentOutcome :=
  if msg.payload = [] then ⟨.errorInvalidParam, none, none⟩
  else if ¬ cfg.enable then ⟨.errorInvalidParam, none, none⟩
  else
    match transparentMsgParse msg.payload with
    | (false, _) => ⟨.errorInvalidParam, none, none⟩
    | (true, transMsg) =>
      if msgTransparentBbuToPaauBase ≤ msg.header.msgId ∧
          msg.header.msgId ≤ msgTransparentBbuToPaau10 then
        handleTransparentBbuToPaau cfg fpgaSendRaw msg.header.msgId transMsg
      else ⟨.success, none, none⟩

/-! ### Zero bytes at the end -/

/-- A content without the zero bytes at its end. -/
def trimmed (content : Bytes) : Bytes := content.rdropWhile (· == 0)

lemma trimmed_trimmed (content : Bytes) : trimmed (trimmed content) = trimmed content :=
  List.rdropWhile_idempotent _ _

/-- The effective length is the length without the zero bytes at the end. -/
lemma take_calcEffectiveLen (content : Bytes) {len : ℕ} (hlen : len ≤ content.length) :
    content.take (calcEffectiveLen content len) = trimmed (content.take len) := by
  induction len with
  | zero => rfl
  | succ len ih =>
    have hlt : len < content.length := hlen
    have hlast : content.take (len + 1) = content.take len ++ [content[len]] :=
      (List.take_concat_get' content len hlt).symm
    have hget : content.getD len 0 = content[len] := by simp [List.getD, hlt]
    rw [calcEffectiveLen, hget, trimmed, hlast]
    split_ifs with hzero
    · rw [List.rdropWhile_concat_pos _ _ _ (by simp [hzero])]
      exact ih (by omega)
    · rw [List.rdropWhile_concat_neg _ _ _ (by simp [hzero]), ← hlast]

lemma calcEffectiveLen_le (content : Bytes) (len : ℕ) : calcEffectiveLen content len ≤ len := by
  induction len with
  | zero => exact Nat.le_refl 0
  | succ len ih =>
    rw [calcEffectiveLen]
    split_ifs with hzero
    · exact Nat.le_succ_of_le ih
    · exact Nat.le_refl _

/-- Trimming leaves a front of the content. -/
lemma length_trimmed_le (content : Bytes) : (trimmed content).length ≤ content.length :=
  (List.rdropWhile_prefix _ content).length_le

/-! ### The round trip -/

/-- What is parsed out of a payload is the target and the content that it was built of. -/
structure ParsedAs (payload : Bytes) (targetId : UInt8) (content : Bytes) : Prop where
  succeeds : (transparentMsgParse payload).1 = true
  target : (transparentMsgParse payload).2.targetId = targetId
  contentLen : (transparentMsgParse payload).2.contentLen = content.length
  sameContent : (transparentMsgParse payload).2.content.take content.length = content
  effectiveLen : (transparentMsgParse payload).2.effectiveLen = (trimmed content).length

/-- The message that goes to the BBU with a payload. -/
def transparentFrame (msgId : ℕ) (payload : Bytes) : Bytes :=
  encodeHeader (transparentHeader msgId) (cpriHeaderLen + payload.length) ++ payload

/-- The echo is the payload that is sent for the effective content of a message, and is parsed
back into it. -/
structure EchoedAs (msgId : ℕ) (transMsg : TransparentMessage) (echo : Bytes) : Prop where
  sent : sendTransparentPaauToBbu true msgId transMsg.targetId (some transMsg.content)
    transMsg.effectiveLen = (.success, some (transparentFrame msgId echo))
  parsed : ParsedAs echo transMsg.targetId (effectiveContent transMsg)
  sameContent : effectiveContent (transparentMsgParse echo).2 = effectiveContent transMsg

/-- The module does with the echo what it does with the payload, and replies to both with the
echo. -/
structure RepliedWith (payload echo : Bytes) : Prop where
  sameOutcome : ∀ cfg fpgaSendRaw header, transparentMsgHandle cfg fpgaSendRaw ⟨header, echo⟩ =
    transparentMsgHandle cfg fpgaSendRaw ⟨header, payload⟩
  reply : ∀ fpgaSendRaw header, (∀ bytes, fpgaSendRaw bytes = .success) →
    msgTransparentBbuToPaauBase ≤ header.msgId → header.msgId ≤ msgTransparentBbuToPaau10 →
      (transparentMsgHandle ⟨true, true, true⟩ fpgaSendRaw ⟨header, payload⟩).reply =
        some (transparentFrame (header.msgId - 10) echo)

section RoundTrip

variable (targetId : UInt8) {content : Bytes}

lemma length_transparentPayload (content : Bytes) :
    (transparentPayload targetId content).length = 9 + content.length := by
  simp only [transparentPayload, List.length_append, length_leBytes, List.length_singleton]

/-- The payload is made of two IEs. -/
lemma elements_transparentPayload (hlen : content.length ≤ transparentContentMaxLen) :
    ∃ x y : Element, x.type = ieTransparentTarget ∧ x.data = [targetId] ∧
      y.type = ieTransparentContent ∧ y.data = content ∧
      elements (transparentPayload targetId content) = [x, y] ∧
      afterElements (transparentPayload targetId content) = [] := by
  have hsize : 4 + content.length < 2 ^ 16 := by
    have hmax : transparentContentMaxLen = 1024 := rfl
    omega
  let x : Element := ⟨ieTransparentTarget, [targetId], by simp⟩
  let y : Element := ⟨ieTransparentContent, content, hsize⟩
  have hpayload : transparentPayload targetId content = [x, y].flatMap Element.encode := by
    simp only [transparentPayload, List.flatMap_cons, List.flatMap_nil, Element.encode,
      List.append_assoc, List.append_nil, x, y, List.length_singleton]
  have helements : elements (transparentPayload targetId content) = [x, y] := by
    rw [hpayload, elements_encode]
  refine ⟨x, y, rfl, rfl, rfl, rfl, helements, ?_⟩
  have hparts := flatMap_encode_elements (transparentPayload targetId content)
  rw [helements, ← hpayload] at hparts
  exact List.append_right_eq_self.1 hparts

/-- What is parsed out of a payload that was built. -/
lemma transparentMsgParse_payload (hlen : content.length ≤ transparentContentMaxLen) :
    transparentMsgParse (transparentPayload targetId content) =
      (true, ⟨targetId, content ++ List.replicate (transparentContentMaxLen - content.length) 0,
        content.length, (trimmed content).length⟩) := by
  obtain ⟨x, y, hxtype, hxdata, hytype, hydata, helements, hafter⟩ :=
    elements_transparentPayload targetId hlen
  have hshort : ¬ (transparentPayload targetId content).length < 4 := by
    rw [length_transparentPayload]
    omega
  have hloop : transparentLoop transparentBody (transparentPayload targetId content) 0 .start =
      (true, ⟨⟨targetId, content ++ List.replicate (transparentContentMaxLen - content.length) 0,
        content.length, 0⟩, true, true⟩) := by
    rw [transparentLoop_eq, ieLoop_zero, List.drop_zero, hafter, helements]
    simp [visit, transparentBody, hxtype, hxdata, hytype, hydata, TransparentParse.start,
      List.take_of_length_le hlen, ieTransparentTarget, ieTransparentContent]
  have heffective : calcEffectiveLen (content ++
      List.replicate (transparentContentMaxLen - content.length) 0) content.length =
        (trimmed content).length := by
    have htake : (content ++ List.replicate (transparentContentMaxLen - content.length) 0).take
        (calcEffectiveLen _ content.length) = _ := take_calcEffectiveLen _ (by simp)
    have hle := calcEffectiveLen_le (content ++
      List.replicate (transparentContentMaxLen - content.length) 0) content.length
    rw [List.take_left] at htake
    rw [← htake, List.length_take, List.length_append]
    omega
  rw [transparentMsgParse, if_neg hshort, hloop]
  simp only [not_true_eq_false, if_false, heffective]

lemma parsedAs_transparentPayload (hlen : content.length ≤ transparentContentMaxLen) :
    ParsedAs (transparentPayload targetId content) targetId content := by
  have hparse := transparentMsgParse_payload targetId hlen
  constructor
  · rw [hparse]
  · rw [hparse]
  · rw [hparse]
  · rw [hparse]
    exact List.take_left
  · rw [hparse]

/-- The effective content of a message that was built is the content without the zero bytes at
its end. -/
lemma effectiveContent_transparentPayload (hlen : content.length ≤ transparentContentMaxLen) :
    effectiveContent (transparentMsgParse (transparentPayload targetId content)).2 =
      trimmed content := by
  rw [transparentMsgParse_payload targetId hlen, effectiveContent]
  exact (List.take_append_of_le_length (length_trimmed_le content)).trans
    (List.prefix_iff_eq_take.1 (List.rdropWhile_prefix _ content)).symm

/-- A content that is not too long is sent, as a whole. -/
lemma sendTransparent_eq {msgId contentLen : ℕ}
    (hid : msgTransparentPaauToBbuBase ≤ msgId ∧ msgId ≤ msgTransparentPaauToBbu10)
    (hlen : contentLen ≤ transparentContentMaxLen) (hcontent : contentLen ≤ content.length) :
    sendTransparentPaauToBbu true msgId targetId (some content) contentLen =
      (.success, some (transparentFrame msgId
        (transparentPayload targetId (content.take contentLen)))) := by
  have hpayload : (transparentPayload targetId (content.take contentLen)).length =
      9 + contentLen := by
    rw [length_transparentPayload, List.length_take, Nat.min_eq_left hcontent]
  have hroom : cpriHeaderLen + (9 + contentLen) ≤ transparentContentMaxLen + 64 := by
    have hheader : cpriHeaderLen = 15 := rfl
    omega
  have hmax : transparentContentMaxLen + 64 = 1088 := rfl
  have hencode : cpriEncodeMessage
      ⟨transparentHeader msgId, transparentPayload targetId (content.take contentLen)⟩
      (List.replicate (transparentContentMaxLen + 64) 0) = _ :=
    cpriEncodeMessage_of_le (by rw [hpayload]; omega) (by rwa [hpayload, List.length_replicate])
  rw [sendTransparentPaauToBbu, if_neg (by simp), if_neg (by omega), if_neg (by omega),
    if_neg (by simp)]
  simp only [Option.getD_some, hencode]
  refine congrArg (fun sent => (TransparentRet.success, some sent)) (List.take_left' ?_)
  rw [List.length_append, length_encodeHeader]

/-- What the module does with a message from the BBU depends on its target and its effective
content. -/
lemma handleTransparent_congr {cfg : TransparentCfg} {fpgaSendRaw : Bytes → TransparentRet}
    {msgId : ℕ} {m m' : TransparentMessage} (htarget : m.targetId = m'.targetId)
    (hlen : m.effectiveLen = m'.effectiveLen)
    (hcontent : effectiveContent m = effectiveContent m') :
    handleTransparentBbuToPaau cfg fpgaSendRaw msgId m =
      handleTransparentBbuToPaau cfg fpgaSendRaw msgId m' := by
  have hsend (replyMsgId : ℕ) : sendTransparentPaauToBbu cfg.initialized replyMsgId m.targetId
      (some m.content) m.effectiveLen = sendTransparentPaauToBbu cfg.initialized replyMsgId
        m'.targetId (some m'.content) m'.effectiveLen := by
    have htake : m.content.take m.effectiveLen = m'.content.take m'.effectiveLen := hcontent
    rw [hlen] at htake
    simp [sendTransparentPaauToBbu, htarget, hlen, htake]
  rw [handleTransparentBbuToPaau, handleTransparentBbuToPaau, hlen, hcontent]
  simp only [← hlen, hsend]

/-- Sending the effective content of a message that was built. -/
lemma echoedAs_trimmed {msgId : ℕ}
    (hid : msgTransparentPaauToBbuBase ≤ msgId ∧ msgId ≤ msgTransparentPaauToBbu10)
    (hlen : content.length ≤ transparentContentMaxLen) :
    EchoedAs msgId (transparentMsgParse (transparentPayload targetId content)).2
      (transparentPayload targetId (trimmed content)) := by
  have htrim : (trimmed content).length ≤ transparentContentMaxLen :=
    (length_trimmed_le content).trans hlen
  have hparse := transparentMsgParse_payload targetId hlen
  have heffective := effectiveContent_transparentPayload targetId hlen
  refine ⟨?_, ?_, ?_⟩
  · have hfront : (content ++ List.replicate (transparentContentMaxLen - content.length) 0).take
        (trimmed content).length = trimmed content := by
      rw [hparse] at heffective
      exact heffective
    rw [hparse, sendTransparent_eq targetId hid htrim (by
      rw [List.length_append]
      exact Nat.le_add_right_of_le (length_trimmed_le content)), hfront]
  · rw [heffective, hparse]
    exact parsedAs_transparentPayload targetId htrim
  · rw [heffective, effectiveContent_transparentPayload targetId htrim, trimmed_trimmed]

/-- The module replies with the effective content. -/
lemma repliedWith_trimmed (hlen : content.length ≤ transparentContentMaxLen) :
    RepliedWith (transparentPayload targetId content)
      (transparentPayload targetId (trimmed content)) := by
  have htrim : (trimmed content).length ≤ transparentContentMaxLen :=
    (length_trimmed_le content).trans hlen
  have hparse := transparentMsgParse_payload targetId hlen
  have hne (c : Bytes) : transparentPayload targetId c ≠ [] := by
    intro h
    have hlength := length_transparentPayload targetId c
    rw [h, List.length_nil] at hlength
    omega
  constructor
  · intro cfg fpgaSendRaw header
    have hecho := transparentMsgParse_payload targetId htrim
    have hsame : handleTransparentBbuToPaau cfg fpgaSendRaw header.msgId
        (transparentMsgParse (transparentPayload targetId (trimmed content))).2 =
          handleTransparentBbuToPaau cfg fpgaSendRaw header.msgId
            (transparentMsgParse (transparentPayload targetId content)).2 :=
      handleTransparent_congr (by rw [hparse, hecho]) (by rw [hparse, hecho, trimmed_trimmed])
        (by rw [effectiveContent_transparentPayload targetId hlen,
          effectiveContent_transparentPayload targetId htrim, trimmed_trimmed])
    rw [hparse, hecho] at hsame
    rw [transparentMsgHandle, transparentMsgHandle, if_neg (hne _), if_neg (hne _), hparse, hecho]
    dsimp only
    rw [hsame]
  · intro fpgaSendRaw header hfpga hge hle
    have hids : msgTransparentPaauToBbuBase = 221 ∧ msgTransparentPaauToBbu10 = 230 ∧
        msgTransparentBbuToPaauBase = 231 ∧ msgTransparentBbuToPaau10 = 240 :=
      ⟨rfl, rfl, rfl, rfl⟩
    have hreply : (msgTransparentPaauToBbuBase + (header.msgId - msgTransparentBbuToPaauBase)) %
        65536 = header.msgId - 10 := by omega
    have hechoed : EchoedAs (header.msgId - 10) _ _ := echoedAs_trimmed targetId (by omega) hlen
    have hsent := hechoed.sent
    have hforward (forwarded : Option Bytes) :
        ¬ forwarded.elim TransparentRet.success fpgaSendRaw ≠ .success := by
      cases forwarded with
      | none => simp
      | some bytes => simp [hfpga]
    rw [hparse] at hsent
    rw [transparentMsgHandle, if_neg (hne _), if_neg (by simp), hparse]
    dsimp only
    rw [if_pos ⟨hge, hle⟩, handleTransparentBbuToPaau, if_neg (by simp)]
    dsimp only
    rw [if_neg (hforward _), if_neg (by simp), hreply, hsent]

end RoundTrip

/-- **The transparent round trip.**  The payload that is built for a target and a content is sent
and parsed back into them; the echo, built of the effective content that was parsed, has the same
effective content; and the module replies with the echo, to the message as to the echo. -/
theorem transparent_roundTrip {msgId : ℕ}
    (hid : msgTransparentPaauToBbuBase ≤ msgId ∧ msgId ≤ msgTransparentPaauToBbu10)
    (targetId : UInt8) {content : Bytes} (hlen : content.length ≤ transparentContentMaxLen) :
    ∃ payload echo,
      sendTransparentPaauToBbu true msgId targetId (some content) content.length =
          (.success, some (transparentFrame msgId payload)) ∧
        ParsedAs payload targetId content ∧
        EchoedAs msgId (transparentMsgParse payload).2 echo ∧ RepliedWith payload echo := by
  refine ⟨transparentPayload targetId content, transparentPayload targetId (trimmed content),
    ?_, parsedAs_transparentPayload targetId hlen, echoedAs_trimmed targetId hid hlen,
    repliedWith_trimmed targetId hlen⟩
  rw [sendTransparent_eq targetId hid hlen le_rfl, List.take_length]

/-- The theorem at a content that ends in zero bytes. -/
theorem transparent_roundTrip_padded :
    ∃ payload echo,
      sendTransparentPaauToBbu true 223 1 (some [0xEB, 0x90, 0x00, 0x55, 0x00, 0x00]) 6 =
          (.success, some (transparentFrame 223 payload)) ∧
        ParsedAs payload 1 [0xEB, 0x90, 0x00, 0x55, 0x00, 0x00] ∧
        EchoedAs 223 (transparentMsgParse payload).2 echo ∧ RepliedWith payload echo :=
  transparent_roundTrip (by decide) 1 (by decide)

end AntennaMgmt.Handlers
