import Mathlib.Tactic.SplitIfs
import OperatorShell.Channel.Exchange
import OperatorShell.Proofs.Message
import OperatorShell.Proofs.Numeral

/-!
# What an exchange brings back

The two halves of an exchange meet at the request and at the response. A command that fits into a
message is what the agent hears, and its answer is what comes back: a reply that fits, or a status
that the headers do not change.

* `StatusText.decode_encode`: a message without a percent sign is not changed by the headers.
* `Frame.decode_encode`: a frame is read back, whatever follows it.
* `Exchange.commandOf_requestOf`, `Exchange.outcomeOf_ofReply`, `Exchange.outcomeOf_ofStatus`: the
  two halves.
* `Exchange.run_eq`: an exchange as one step of the agent.
* `Exchange.not_gaveUp_outcomeOf`: no response reads as a wait that was given up.
-/

namespace OperatorShell

/-! ## Statuses in headers -/

namespace Wire.StatusText

theorem hexValue?_upperDigit {n : Nat} (h : n < 16) : Text.hexValue? (upperDigit n) = some n := by
  have hall : ∀ x : Fin 16, Text.hexValue? (upperDigit x) = some x.val := by decide
  exact hall ⟨n, h⟩

theorem decodeBytes_cons {c : Char} (hc : c ≠ '%') (rest : Text) :
    decodeBytes (c :: rest) = Text.encodeChar c ++ decodeBytes rest := by
  rw [decodeBytes]
  rintro a b tail rfl
  exact absurd rfl hc

theorem decodeBytes_encodeByte {b : UInt8} (hb : b ≠ 0x25) (rest : Text) :
    decodeBytes (encodeByte b ++ rest) = b :: decodeBytes rest := by
  have hlt : b.toNat < 256 := b.toNat_lt
  by_cases hcoded : isCoded b = true
  · have hvalue : UInt8.ofNat (16 * (b.toNat / 16) + b.toNat % 16) = b :=
      Text.ofNat_eq_of_toNat_eq (by omega)
    have hhigh := hexValue?_upperDigit (show b.toNat / 16 < 16 by omega)
    have hlow := hexValue?_upperDigit (show b.toNat % 16 < 16 by omega)
    rw [encodeByte, if_pos hcoded, List.cons_append, List.cons_append, List.cons_append,
      List.nil_append, decodeBytes, hhigh, hlow]
    exact congrArg (· :: decodeBytes rest) hvalue
  · -- a byte that is not coded is a character of ASCII, and reads as itself if that is not '%'
    have hsmall : b.toNat < 0x7F := by
      simp only [isCoded, Bool.or_eq_true, decide_eq_true_eq, not_or, Nat.not_le] at hcoded
      exact hcoded.1.2
    have hvalid : b.toNat.isValidChar := Or.inl (by omega)
    have hnumber : (Char.ofNat b.toNat).toNat = b.toNat := by
      rw [Char.ofNat, dif_pos hvalid]
      rfl
    have hne : Char.ofNat b.toNat ≠ '%' := by
      intro h
      rw [h] at hnumber
      exact hb (UInt8.toNat_inj.1 hnumber.symm)
    rw [encodeByte, if_neg hcoded, List.cons_append, List.nil_append, decodeBytes_cons hne,
      Text.encodeChar_of_one (show b.toNat < 0x80 by omega) hnumber.symm]
    rfl

theorem decodeBytes_flatMap {bs : Bytes} (h : 0x25 ∉ bs) :
    decodeBytes (bs.flatMap encodeByte) = bs := by
  induction bs with
  | nil => rfl
  | cons b bs ih =>
    rw [List.flatMap_cons, decodeBytes_encodeByte (List.ne_of_not_mem_cons h).symm,
      ih (List.not_mem_of_not_mem_cons h)]

theorem eq_percent_of_mem_encodeChar {c : Char} (h : 0x25 ∈ Text.encodeChar c) : c = '%' := by
  have hbyte : ∀ n, (0x25 : UInt8) = UInt8.ofNat n → n % 256 = 0x25 := fun n hn => by
    rw [← UInt8.toNat_ofNat', ← hn]
    rfl
  have hcontinuation : ∀ n unit, (0x25 : UInt8) ≠ Text.continuation n unit := fun n unit hn => by
    have hvalue := hbyte _ hn
    omega
  have hlt := Text.toNat_lt c
  rw [Text.encodeChar] at h
  split_ifs at h
  · have hvalue := hbyte _ (List.mem_singleton.1 h)
    exact Char.toNat_inj.1 (show c.toNat = 0x25 by omega)
  -- every byte of a longer encoding is at least 0x80
  all_goals
    simp only [List.mem_cons, hcontinuation, List.not_mem_nil, or_false] at h
    have hvalue := hbyte _ h
    omega

theorem decode_encode {message : Text} (h : '%' ∉ message) :
    decode (encode message) = .ok message := by
  have hbytes : 0x25 ∉ Text.encodeUtf8 message := by
    intro hmem
    obtain ⟨c, hc, hbyte⟩ := List.mem_flatMap.1 hmem
    exact h (eq_percent_of_mem_encodeChar hbyte ▸ hc)
  rw [decode, encode, decodeBytes_flatMap hbytes, Text.decodeUtf8?_eq_some_iff.2 rfl]

end Wire.StatusText

/-! ## Frames -/

namespace Wire.Frame

/-- The number in four bytes, high byte first. -/
def lengthOf (a b c d : UInt8) : Nat :=
  ((a.toNat * 0x100 + b.toNat) * 0x100 + c.toNat) * 0x100 + d.toNat

theorem lengthBytes_eq {n : Nat} (h : n < 0x100000000) :
    ∃ a b c d, lengthBytes n = [a, b, c, d] ∧ lengthOf a b c d = n := by
  refine ⟨_, _, _, _, rfl, ?_⟩
  simp only [lengthOf, UInt8.toNat_ofNat']
  omega

theorem decode_encode {message : Bytes} (h : message.length ≤ maxMessage) (rest : Bytes) :
    decode (encode message ++ rest) = .ok (some (message, rest)) := by
  have hlarge : maxMessage < 0x100000000 := by decide
  obtain ⟨a, b, c, d, hbytes, hlength⟩ := lengthBytes_eq (Nat.lt_of_le_of_lt h hlarge)
  rw [lengthOf] at hlength
  have hle : message.length ≤ (message ++ rest).length := by simp
  simp [encode, hbytes, decode, hlength, Nat.not_lt.2 h]

end Wire.Frame

/-! ## Requests and responses -/

/-- Whether a message with a text is small enough for a frame. -/
def Wire.MessageKind.Fits (k : MessageKind) (text : Text) : Prop :=
  (k.encode text).length ≤ Frame.maxMessage

instance (k : Wire.MessageKind) (text : Text) : Decidable (k.Fits text) :=
  inferInstanceAs (Decidable (_ ≤ _))

namespace Wire.MessageKind

variable {k : MessageKind} {text : Text}

theorem byteLength_le_length_encode (k : MessageKind) (text : Text) :
    Text.byteLength text ≤ (k.encode text).length := by
  by_cases h : text = []
  · subst h
    exact Nat.zero_le _
  · rw [encode_of_ne_nil h, List.length_append, Text.length_encodeUtf8]
    exact Nat.le_add_left _ _

theorem Fits.decode_encode (h : k.Fits text) : k.decode (k.encode text) = .ok text := by
  have hlength : Text.byteLength text ≤ Frame.maxMessage :=
    Nat.le_trans (k.byteLength_le_length_encode text) h
  exact MessageKind.decode_encode k (Nat.lt_of_le_of_lt hlength (by decide))

end Wire.MessageKind

namespace Service

open Wire

theorem readCommands_frame {command : Text} (h : MessageKind.request.Fits command) (rest : Bytes) :
    readCommands (Frame.encode (MessageKind.request.encode command) ++ rest) =
      (readCommands rest).map (command :: ·) := by
  rw [readCommands]
  split
  · next e he => simp [Frame.decode_encode h] at he
  · next hnone => simp [Frame.decode_encode h] at hnone
  · next message rest' hsome =>
    rw [Frame.decode_encode h] at hsome
    obtain ⟨rfl, rfl⟩ : MessageKind.request.encode command = message ∧ rest = rest' := by
      simpa using hsome
    rw [h.decode_encode]

theorem readCommands_nil : readCommands [] = .ok [] := by
  rw [readCommands]
  rfl

end Service

namespace Exchange

open Wire Service

theorem commandOf_requestOf {command : Text} (h : MessageKind.request.Fits command) :
    commandOf (requestOf command) = .ok command := by
  have hencoding : foreignEncoding? (requestOf command) = none := rfl
  -- the body ends with the first frame, so there is one command and nothing to refuse after it
  have hbody := readCommands_frame h []
  rw [List.append_nil, readCommands_nil] at hbody
  rw [commandOf, if_neg (fun hpath => hpath rfl), hencoding]
  dsimp only
  rw [requestOf, hbody]
  rfl

theorem ofNumeral_decimal (c : StatusCode) :
    StatusCode.ofNumeral (Text.decimal c.number) = c := by
  have hsame : (fun c' : StatusCode => decide (Text.decimal c'.number = Text.decimal c.number)) =
      fun c' => decide (c'.number = c.number) :=
    funext fun c' => decide_eq_decide.2 Text.decimal_inj
  rw [StatusCode.ofNumeral, hsame]
  cases c <;> rfl

/-- The status in headers is the one that they were made for, with its message as it comes out of
them, unless no text comes out. -/
theorem statusOf?_statusHeaders (s : Status) :
    statusOf? (statusHeaders s) =
      some (match StatusText.decode (StatusText.encode s.message) with
        | .ok message => ⟨s.code, message⟩
        | .error fault => illegible fault) := by
  have hnumber : (statusHeaders s).get? "grpc-status".toList =
      some (Text.decimal s.code.number) := by
    rw [statusHeaders]
    split_ifs <;> rfl
  have hmessage : ((statusHeaders s).get? "grpc-message".toList).getD [] =
      StatusText.encode s.message := by
    rw [statusHeaders]
    split_ifs with h
    · rw [h]
      rfl
    · rfl
  have hstatus : statusOf? (statusHeaders s) = some (match StatusText.decode
      ((statusHeaders s).get? "grpc-message".toList |>.getD []) with
        | .ok message => ⟨StatusCode.ofNumeral (Text.decimal s.code.number), message⟩
        | .error fault => illegible fault) := by
    unfold statusOf?
    rw [hnumber]
    rfl
  rw [hstatus, hmessage, ofNumeral_decimal]

/-- Whether headers carry a status as it is. -/
def Travels (s : Status) : Prop := statusOf? (statusHeaders s) = some s

instance (s : Status) : Decidable (Travels s) := inferInstanceAs (Decidable (_ = _))

theorem travels_of_decode {s : Status}
    (h : StatusText.decode (StatusText.encode s.message) = .ok s.message) : Travels s := by
  rw [Travels, statusOf?_statusHeaders, h]

theorem travels_of_not_mem {s : Status} (h : '%' ∉ s.message) : Travels s :=
  travels_of_decode (StatusText.decode_encode h)

/-! ## Outcomes -/

theorem outcomeOf_ofReply {reply : Text} (h : MessageKind.reply.Fits reply) :
    outcomeOf (.ofReply reply) = .ok reply := by
  -- a status in the headers would hide the reply, and so would one but OK in the trailers
  have hheaders : statusOf? [contentType] = none := rfl
  have hafter : statusOf? (statusHeaders ⟨.ok, []⟩) = some ⟨.ok, []⟩ :=
    travels_of_not_mem List.not_mem_nil
  have hframe := Frame.decode_encode h []
  rw [List.append_nil] at hframe
  simp only [outcomeOf, Response.ofReply, hheaders, Option.getD_some, hafter, hframe,
    h.decode_encode, outcomeOfReply, if_true]

theorem outcomeOf_ofStatus {s : Status} (h : Travels s) (hcode : s.code ≠ .ok) :
    outcomeOf (.ofStatus s) = .error (.ofStatus s) := by
  -- the header in front of the status says nothing of one
  have hheaders : statusOf? (Response.ofStatus s).headers = some s := h
  rw [outcomeOf, hheaders]
  exact if_neg hcode

/-- Whether an answer comes back as it is: a reply has to fit, and a status must not be changed by
the headers. -/
def Arrives : Except Status Text → Prop
  | .ok reply => MessageKind.reply.Fits reply
  | .error s => Travels s

instance : (answer : Except Status Text) → Decidable (Arrives answer)
  | .ok reply => inferInstanceAs (Decidable (MessageKind.reply.Fits reply))
  | .error s => inferInstanceAs (Decidable (Travels s))

/-- **An exchange** is one step of the agent: it hears the command, and its answer comes back. -/
theorem run_eq {a : StubAgent} {command : Text} (hcommand : MessageKind.request.Fits command)
    (hanswer : Arrives (a.serve command).1)
    (hcode : ∀ s, (a.serve command).1 = .error s → s.code ≠ .ok) :
    run a command = ((a.serve command).1.mapError .ofStatus, (a.serve command).2) := by
  rw [run, respond, commandOf_requestOf hcommand]
  dsimp only
  cases h : (a.serve command).1 with
  | ok reply =>
    rw [h] at hanswer
    exact congrArg (·, (a.serve command).2) (outcomeOf_ofReply hanswer)
  | error s =>
    rw [h] at hanswer
    exact congrArg (·, (a.serve command).2) (outcomeOf_ofStatus hanswer (hcode s h))

end Exchange

/-! ## No end of the waiting -/

/-- Whether an outcome is that of a wait that was given up: a limit was reached, or the operator
interrupted it. -/
def Outcome.GaveUp (outcome : Outcome) : Prop :=
  (∃ limit, outcome = .error (.timeout limit)) ∨ outcome = .error .cancelled

namespace Exchange

theorem not_gaveUp_ok (reply : Text) : ¬Outcome.GaveUp (.ok reply) := by
  simp [Outcome.GaveUp]

theorem not_gaveUp_remote (details : Text) : ¬Outcome.GaveUp (.error (.remote details)) := by
  simp [Outcome.GaveUp]

theorem not_gaveUp_ofStatus (s : Status) : ¬Outcome.GaveUp (.error (.ofStatus s)) := by
  rw [DispatchError.ofStatus]
  split_ifs <;> simp [Outcome.GaveUp]

theorem not_gaveUp_outcomeOfStatus (s : Status) : ¬(outcomeOfStatus s).GaveUp := by
  rw [outcomeOfStatus]
  split_ifs
  · exact not_gaveUp_remote _
  · exact not_gaveUp_ofStatus s

theorem not_gaveUp_outcomeOfReply (reply : Text) (after : Option Status) :
    ¬(outcomeOfReply reply after).GaveUp := by
  cases after with
  | none => exact not_gaveUp_ok reply
  | some s =>
    rw [outcomeOfReply]
    split_ifs
    · exact not_gaveUp_ok reply
    · exact not_gaveUp_ofStatus s

theorem not_gaveUp_outcomeOf (r : Service.Response) : ¬(outcomeOf r).GaveUp := by
  rw [outcomeOf]
  split
  · exact not_gaveUp_outcomeOfStatus _
  · dsimp only
    split
    · exact not_gaveUp_ofStatus _
    · cases statusOf? (r.trailers.getD []) with
      | none => exact not_gaveUp_remote _
      | some s => exact not_gaveUp_outcomeOfStatus s
    · split
      · exact not_gaveUp_remote _
      · exact not_gaveUp_outcomeOfReply _ _

end Exchange

end OperatorShell
