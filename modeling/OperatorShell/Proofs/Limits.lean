import Mathlib.Logic.ExistsUnique
import OperatorShell.Channel
import OperatorShell.Proofs.Numeral
import OperatorShell.Settings

/-!
# The limit that the operator reads

A limit is chosen in milliseconds, kept in seconds and nanoseconds, and printed in milliseconds
again. The number that is printed is that of the whole milliseconds in the limit, which is the one
that was chosen. It needs words of 128 bits: in 64 bits the number of a long span wraps.

* `Span.IsDuration`: the spans that the machine has.
* `Span.Lasts`: how many whole milliseconds a span lasts; `Span.lasts_iff`: only `Span.millis`.
* `Span.millisWord`: the milliseconds of a span in machine words.
* `AgentSettings.channel_keeps_limit`: from the number that is chosen to the number that is read.
-/

namespace OperatorShell

namespace Span

/-- Seconds of 64 bits, and nanoseconds that do not make a second. -/
structure IsDuration (s : Span) : Prop where
  seconds : s.seconds ≤ Text.maxWord64
  nanos : s.nanos < 1000000000

/-- The whole length of a span in nanoseconds. -/
def total (s : Span) : Nat := s.seconds * 1000000000 + s.nanos

/-- A span lasts `n` milliseconds and not one more. -/
def Lasts (s : Span) (n : Nat) : Prop := n * 1000000 ≤ s.total ∧ s.total < (n + 1) * 1000000

/-- The milliseconds of a span, computed in words of `width` bits. -/
def millisWord (width : Nat) (s : Span) : BitVec width :=
  BitVec.ofNat width s.seconds * BitVec.ofNat width 1000 +
    BitVec.ofNat width (s.nanos / 1000000)

variable {s : Span} {n : Nat}

theorem lasts_iff : s.Lasts n ↔ n = s.millis := by
  unfold Lasts total millis
  omega

theorem existsUnique_lasts (s : Span) : ∃! n, s.Lasts n := by
  refine ⟨s.millis, lasts_iff.2 rfl, ?_⟩
  intro n hn
  exact lasts_iff.1 hn

theorem isDuration_ofMillis (h : n ≤ Text.maxWord64) : (ofMillis n).IsDuration := by
  unfold ofMillis
  constructor
  · show n / 1000 ≤ Text.maxWord64
    omega
  · show n % 1000 * 1000000 < 1000000000
    omega

theorem total_ofMillis (n : Nat) : (ofMillis n).total = n * 1000000 := by
  show n / 1000 * 1000000000 + n % 1000 * 1000000 = n * 1000000
  omega

theorem IsDuration.millis_lt (h : s.IsDuration) : s.millis < 0x10000000000000000 * 1000 := by
  have hseconds : s.seconds ≤ 0xFFFFFFFFFFFFFFFF := h.seconds
  have hnanos := h.nanos
  unfold millis
  omega

/-- No word of 128 bits wraps while the milliseconds of a span are computed. -/
theorem IsDuration.toNat_millisWord (h : s.IsDuration) : (s.millisWord 128).toNat = s.millis := by
  have hlt := h.millis_lt
  unfold millis at hlt ⊢
  unfold millisWord
  simp only [BitVec.toNat_add, BitVec.toNat_mul, BitVec.toNat_ofNat]
  omega

end Span

/-! ## What is printed -/

/-- What the operator reads when no answer came within `n` milliseconds. -/
def limitMessage (n : Nat) : Text :=
  "JP4Agent did not respond within ".toList ++ Text.decimal n ++ " ms.".toList

theorem limitMessage_inj {m n : Nat} : limitMessage m = limitMessage n ↔ m = n := by
  unfold limitMessage
  rw [List.append_left_inj, List.append_right_inj, Text.decimal_inj]

namespace DispatchError

theorem message_timeout (s : Span) : (timeout s).message = limitMessage s.millis := rfl

theorem message_timeout_eq_iff {s : Span} {n : Nat} :
    (timeout s).message = limitMessage n ↔ s.Lasts n := by
  rw [message_timeout, limitMessage_inj, Span.lasts_iff, eq_comm]

end DispatchError

namespace AgentSettings

theorem timeout_channel_eq_none_iff {a : AgentSettings} :
    a.channel.timeout = none ↔ a.timeout = 0 := by
  unfold channel
  by_cases h : a.timeout = 0
  · simp [h]
  · simp [h]

theorem timeout_channel_eq_some_iff {a : AgentSettings} {limit : Span} :
    a.channel.timeout = some limit ↔ a.timeout ≠ 0 ∧ limit = .ofMillis a.timeout := by
  unfold channel
  by_cases h : a.timeout = 0
  · simp [h]
  · simp [h, eq_comm]

theorem message_of_timeout_channel {a : AgentSettings} {limit : Span}
    (h : a.channel.timeout = some limit) :
    (DispatchError.timeout limit).message = limitMessage a.timeout := by
  obtain ⟨-, rfl⟩ := timeout_channel_eq_some_iff.1 h
  rw [DispatchError.message_timeout, Span.millis_ofMillis]

/-- **The number that is chosen is the number that is read.** A channel has no limit exactly where
zero was chosen. Otherwise its limit is the chosen number of milliseconds, a wait that reaches it
ends with it, and the operator reads that number; so different numbers are read differently. What is
printed of any span is the one number of whole milliseconds that it lasts, computed without wrapping
also where that number has more than 64 bits. -/
theorem channel_keeps_limit (a : AgentSettings) (h : a.timeout ≤ Text.maxWord64) :
    (a.channel.timeout = none ↔ a.timeout = 0) ∧
      (∀ limit, a.channel.timeout = some limit →
        limit.IsDuration ∧ limit.total = a.timeout * 1000000 ∧
          (∀ rest, a.channel.settle (.limitReached :: rest) = .error (.timeout limit)) ∧
          (DispatchError.timeout limit).message = limitMessage a.timeout) ∧
      (∀ (b : AgentSettings) (limit limit' : Span), a.channel.timeout = some limit →
        b.channel.timeout = some limit' → a.timeout ≠ b.timeout →
          (DispatchError.timeout limit).message ≠ (DispatchError.timeout limit').message) ∧
      ∀ s : Span, s.IsDuration → (∃! n, s.Lasts n) ∧
        (∀ n, (DispatchError.timeout s).message = limitMessage n ↔ s.Lasts n) ∧
        s.Lasts (s.millisWord 128).toNat := by
  refine ⟨timeout_channel_eq_none_iff, ?_, ?_, ?_⟩
  · intro limit hlimit
    refine ⟨?_, ?_, ?_, message_of_timeout_channel hlimit⟩
    · obtain ⟨-, rfl⟩ := timeout_channel_eq_some_iff.1 hlimit
      exact Span.isDuration_ofMillis h
    · obtain ⟨-, rfl⟩ := timeout_channel_eq_some_iff.1 hlimit
      exact Span.total_ofMillis a.timeout
    · intro rest
      rw [ChannelSettings.settle, hlimit]
  · intro b limit limit' hlimit hlimit' hne heq
    rw [message_of_timeout_channel hlimit, message_of_timeout_channel hlimit'] at heq
    exact hne (limitMessage_inj.1 heq)
  · intro s hs
    refine ⟨s.existsUnique_lasts, fun n => DispatchError.message_timeout_eq_iff, ?_⟩
    exact Span.lasts_iff.2 hs.toNat_millisWord

/-- The longest limit that can be chosen, and the longest span there is, whose milliseconds wrap in
64 bits. -/
theorem channel_keeps_limit_of_longest :
    let a : AgentSettings := { timeout := 0xFFFFFFFFFFFFFFFF }
    let longest : Span := ⟨0xFFFFFFFFFFFFFFFF, 999999999⟩
    a.timeout ≤ Text.maxWord64 ∧
      (∃ limit, a.channel.timeout = some limit ∧ (DispatchError.timeout limit).message =
        "JP4Agent did not respond within 18446744073709551615 ms.".toList) ∧
      longest.IsDuration ∧
      (DispatchError.timeout longest).message =
        "JP4Agent did not respond within 18446744073709551615999 ms.".toList ∧
      ¬longest.Lasts (longest.millisWord 64).toNat := by
  intro a longest
  have hbound : a.timeout ≤ Text.maxWord64 := Nat.le_refl _
  have hlongest : longest.IsDuration := ⟨Nat.le_refl _, by decide⟩
  obtain ⟨-, hlimit, -, hspan⟩ := channel_keeps_limit a hbound
  obtain ⟨-, hmessage, -⟩ := hspan longest hlongest
  refine ⟨hbound, ?_, hlongest, ?_, ?_⟩
  · have hsome : a.channel.timeout = some (.ofMillis a.timeout) :=
      timeout_channel_eq_some_iff.2 ⟨by decide, rfl⟩
    obtain ⟨-, -, -, htext⟩ := hlimit _ hsome
    exact ⟨_, hsome, htext.trans (by decide +kernel)⟩
  · have hlasts : longest.Lasts 18446744073709551615999 := Span.lasts_iff.2 (by decide +kernel)
    exact ((hmessage _).2 hlasts).trans (by decide +kernel)
  · rw [Span.lasts_iff]
    decide +kernel

end AgentSettings

end OperatorShell
