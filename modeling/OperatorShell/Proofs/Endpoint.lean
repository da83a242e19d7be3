import OperatorShell.Channel.Settings
import OperatorShell.Proofs.Words

/-!
# The URI of an address

An address becomes a URI in two moves: the blanks around it go, and a scheme is put in front unless
there is one. The first move leaves nothing for a second trimming, and the second brings no blank and
a separator, so the URI of a URI is that URI.

* `Text.hasPart_iff`: the search for a part finds exactly the parts.
* `Text.Tight`: a text without a blank at either end.
* `Text.trim_padded`, `Text.tight_trim`, `Text.trim_of_tight`: what trimming removes, what it leaves,
  and where it does nothing.
* `ChannelSettings.UriOf`: what the URI of an address is.
* `ChannelSettings.endpointUri_normalizes`: the URI of an address, with or without blanks around it.
-/

namespace OperatorShell

namespace Text

theorem hasPart_iff {part t : Text} : hasPart part t = true ↔ part <:+: t := by
  induction t with
  | nil => rw [hasPart, List.isEmpty_iff, List.infix_nil]
  | cons c t ih =>
    rw [hasPart, Bool.or_eq_true, List.isPrefixOf_iff_prefix, ih, List.infix_cons_iff]

/-! ## Blanks around a text -/

/-- No blank stands at either end. -/
structure Tight (t : Text) : Prop where
  head : ∀ c ∈ t.head?, isBlank c = false
  last : ∀ c ∈ t.getLast?, isBlank c = false

variable {blanks blanks' t : Text}

theorem trimEnd_eq (t : Text) : trimEnd t = (trimStart t.reverse).reverse := rfl

theorem isAllBlank_reverse (t : Text) : isAllBlank t.reverse = isAllBlank t := by
  simp only [isAllBlank, List.all_reverse]

theorem trimEnd_append (h : isAllBlank blanks = true) : trimEnd (t ++ blanks) = trimEnd t := by
  have hreverse : isAllBlank blanks.reverse = true := by rwa [isAllBlank_reverse]
  rw [trimEnd_eq, List.reverse_append, trimStart_append hreverse, trimEnd_eq]

theorem trimStart_append_right (h : trimStart t ≠ []) (rest : Text) :
    trimStart (t ++ rest) = trimStart t ++ rest := by
  have hne : (t.dropWhile isBlank).isEmpty = false := by
    rwa [List.isEmpty_eq_false_iff]
  unfold trimStart
  rw [List.dropWhile_append, hne]
  rfl

theorem trim_padded (h : isAllBlank blanks = true) (h' : isAllBlank blanks' = true) :
    trim (blanks ++ t ++ blanks') = trim t := by
  unfold trim
  rw [List.append_assoc, trimStart_append h]
  by_cases hblank : trimStart t = []
  · have hall : isAllBlank (t ++ blanks') = true := by
      have ht : isAllBlank t = true := trimStart_eq_nil_iff.1 hblank
      simp only [isAllBlank, List.all_append, Bool.and_eq_true] at ht h' ⊢
      exact ⟨ht, h'⟩
    rw [trimStart_eq_nil_iff.2 hall, hblank]
  · rw [trimStart_append_right hblank, trimEnd_append h']

theorem trimEnd_isPrefix (t : Text) : trimEnd t <+: t := by
  rw [← List.reverse_suffix, trimEnd_eq, List.reverse_reverse]
  exact List.dropWhile_suffix _

theorem not_isBlank_of_head?_trimStart {c : Char} (h : c ∈ (trimStart t).head?) :
    isBlank c = false := by
  cases hstart : trimStart t with
  | nil => simp [hstart] at h
  | cons d rest =>
    rw [hstart, List.head?_cons, Option.mem_some] at h
    exact h ▸ head_trimStart hstart

theorem tight_trim (t : Text) : Tight (trim t) := by
  constructor
  · intro c hc
    have hfirst : [c] <+: trimStart t :=
      (List.singleton_prefix_iff_head?_eq_some.2 hc).trans (trimEnd_isPrefix _)
    exact not_isBlank_of_head?_trimStart (List.singleton_prefix_iff_head?_eq_some.1 hfirst)
  · intro c hc
    unfold trim at hc
    rw [trimEnd_eq, List.getLast?_reverse] at hc
    exact not_isBlank_of_head?_trimStart hc

theorem trimStart_of_tight (h : Tight t) : trimStart t = t := by
  cases t with
  | nil => rfl
  | cons c t => simp [trimStart, h.head c (by simp)]

theorem Tight.reverse (h : Tight t) : Tight t.reverse := by
  constructor
  · simpa using h.last
  · simpa using h.head

theorem Tight.append {front : Text} (hfront : Tight front) (hne : front ≠ []) (h : Tight t) :
    Tight (front ++ t) := by
  constructor
  · obtain ⟨c, rest, rfl⟩ := List.exists_cons_of_ne_nil hne
    exact hfront.head
  · rw [List.getLast?_append]
    cases hlast : t.getLast? with
    | none => exact hfront.last
    | some d =>
      rintro c ⟨⟩
      exact h.last d hlast

theorem trim_of_tight (h : Tight t) : trim t = t := by
  unfold trim
  rw [trimStart_of_tight h, trimEnd_eq, trimStart_of_tight h.reverse, List.reverse_reverse]

theorem exists_padding (t : Text) :
    ∃ blanks blanks', t = blanks ++ trim t ++ blanks' ∧ isAllBlank blanks = true ∧
      isAllBlank blanks' = true := by
  obtain ⟨blanks, hstart, hblank⟩ := exists_blanks_append_trimStart t
  obtain ⟨blanks', hend, hblank'⟩ := exists_blanks_append_trimStart (trimStart t).reverse
  refine ⟨blanks, blanks'.reverse, ?_, hblank, by rwa [isAllBlank_reverse]⟩
  have hsplit : trimStart t = trim t ++ blanks'.reverse := by
    rw [trim, trimEnd_eq, ← List.reverse_append, ← hend, List.reverse_reverse]
  rw [List.append_assoc, ← hsplit]
  exact hstart

end Text

namespace ChannelSettings

variable {s : ChannelSettings}

theorem endpointUri_of_separator (h : schemeSeparator <:+: Text.trim s.address) :
    s.endpointUri = Text.trim s.address := by
  unfold endpointUri
  exact if_pos (Text.hasPart_iff.2 h)

theorem endpointUri_of_no_separator (h : ¬schemeSeparator <:+: Text.trim s.address) :
    s.endpointUri = "http://".toList ++ Text.trim s.address := by
  unfold endpointUri
  exact if_neg fun hpart => h (Text.hasPart_iff.1 hpart)

theorem endpointUri_congr {s' : ChannelSettings} (h : Text.trim s.address = Text.trim s'.address) :
    s.endpointUri = s'.endpointUri := by
  unfold endpointUri
  rw [h]

theorem separator_infix_endpointUri (s : ChannelSettings) : schemeSeparator <:+: s.endpointUri := by
  by_cases h : schemeSeparator <:+: Text.trim s.address
  · rwa [endpointUri_of_separator h]
  · rw [endpointUri_of_no_separator h]
    exact ⟨"http".toList, Text.trim s.address, rfl⟩

theorem tight_endpointUri (s : ChannelSettings) : Text.Tight s.endpointUri := by
  by_cases h : schemeSeparator <:+: Text.trim s.address
  · rw [endpointUri_of_separator h]
    exact Text.tight_trim s.address
  · have hscheme : Text.Tight "http://".toList := by
      constructor <;> rintro c ⟨⟩ <;> decide
    rw [endpointUri_of_no_separator h]
    exact hscheme.append (by decide) (Text.tight_trim s.address)

theorem trim_suffix_endpointUri (s : ChannelSettings) : Text.trim s.address <:+ s.endpointUri := by
  by_cases h : schemeSeparator <:+: Text.trim s.address
  · simp only [endpointUri_of_separator h, List.suffix_refl]
  · rw [endpointUri_of_no_separator h]
    exact List.suffix_append _ _

theorem endpointUri_eq_trim_iff :
    s.endpointUri = Text.trim s.address ↔ schemeSeparator <:+: Text.trim s.address := by
  refine ⟨fun heq => ?_, endpointUri_of_separator⟩
  exact heq ▸ separator_infix_endpointUri s

theorem endpointUri_again (s : ChannelSettings) :
    ({ s with address := s.endpointUri } : ChannelSettings).endpointUri = s.endpointUri := by
  have htrim : Text.trim s.endpointUri = s.endpointUri := Text.trim_of_tight (tight_endpointUri s)
  refine Eq.trans (endpointUri_of_separator ?_) htrim
  show schemeSeparator <:+: Text.trim s.endpointUri
  rw [htrim]
  exact separator_infix_endpointUri s

/-- What the URI of an address is, where no blanks are around the address. -/
structure UriOf (address uri : Text) : Prop where
  separator : "://".toList <:+: uri
  tight : Text.Tight uri
  ends : address <:+ uri
  same : uri = address ↔ "://".toList <:+: address
  scheme : ¬"://".toList <:+: address → uri = "http://".toList ++ address

theorem uriOf_endpointUri (s : ChannelSettings) : UriOf (Text.trim s.address) s.endpointUri where
  separator := separator_infix_endpointUri s
  tight := tight_endpointUri s
  ends := trim_suffix_endpointUri s
  same := endpointUri_eq_trim_iff
  scheme := endpointUri_of_no_separator

/-- **The URI of an address.** The blanks around an address make no difference to it. It has a
separator and no blank at either end, and it ends with the address as it is without those blanks:
that is all of it exactly if a separator is in there, and otherwise only `http://` comes before.
Taken as an address it is its own URI, and leads to the same endpoint. -/
theorem endpointUri_normalizes (s : ChannelSettings) :
    (∀ blanks blanks', Text.isAllBlank blanks = true → Text.isAllBlank blanks' = true →
        ({ s with address := blanks ++ s.address ++ blanks' } : ChannelSettings).endpointUri =
          s.endpointUri) ∧
      (∃ blanks blanks', s.address = blanks ++ Text.trim s.address ++ blanks' ∧
        Text.isAllBlank blanks = true ∧ Text.isAllBlank blanks' = true) ∧
      Text.Tight (Text.trim s.address) ∧
      UriOf (Text.trim s.address) s.endpointUri ∧
      ({ s with address := s.endpointUri } : ChannelSettings).endpointUri = s.endpointUri ∧
      ∀ uri, s.endpoint = .ok uri ↔
        ({ s with address := s.endpointUri } : ChannelSettings).endpoint = .ok uri := by
  refine ⟨?_, Text.exists_padding s.address, Text.tight_trim s.address, uriOf_endpointUri s,
    endpointUri_again s, ?_⟩
  · intro blanks blanks' h h'
    exact endpointUri_congr (Text.trim_padded h h')
  · intro uri
    rw [endpoint, endpoint, endpointUri_again]
    cases Uri.parse s.endpointUri with
    | ok parsed => rfl
    | error fault => constructor <;> rintro ⟨⟩

/-- Wide blanks around an address with blanks of its own, and an address that is blank all over. -/
theorem endpointUri_normalizes_wide_blanks :
    let s := ofAddress "\u2003agent :1\u0085".toList
    let blank := ofAddress "\u3000\t".toList
    Text.isAllBlank "\u00a0\n".toList = true ∧ Text.isAllBlank "\u2028".toList = true ∧
      ({ s with address := "\u00a0\n".toList ++ s.address ++ "\u2028".toList } :
        ChannelSettings).endpointUri = "http://agent :1".toList ∧
      ¬"://".toList <:+: Text.trim blank.address ∧
      blank.endpointUri = "http://".toList := by
  intro s blank
  have hnone : ¬"://".toList <:+: Text.trim blank.address := by decide
  obtain ⟨hpadded, -⟩ := endpointUri_normalizes s
  obtain ⟨-, -, -, huri, -⟩ := endpointUri_normalizes blank
  refine ⟨by decide, by decide, ?_, hnone, ?_⟩
  · rw [hpadded "\u00a0\n".toList "\u2028".toList (by decide) (by decide)]
    decide
  · rw [huri.scheme hnone]
    decide

end ChannelSettings

end OperatorShell
