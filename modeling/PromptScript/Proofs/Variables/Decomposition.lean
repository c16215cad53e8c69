import PromptScript.Proofs.Variables.Substitute

/-!
# How delimiters decompose a text

The delimiters alone cut a text into literal pieces and tokens, and in one way only.  Substitution
reads the text once along this decomposition: it puts the value of every token in its place, and
fails at the first token without one.  What is put in is never cut again.
-/

namespace PromptScript

namespace Text

/-- Whether the first occurrence of a separator in a text stands between two pieces of it. -/
structure FirstCut (separator text before after : List Char) : Prop where
  whole : text = before ++ separator ++ after
  first {front back : List Char} (hoccurs : text = front ++ separator ++ back) :
    before.length ≤ front.length

variable {separator text before after : List Char}

theorem FirstCut.unique {front back : List Char} (hcut : FirstCut separator text before after)
    (hother : FirstCut separator text front back) : front = before ∧ back = after := by
  have hlength : front.length = before.length :=
    Nat.le_antisymm (hother.first hcut.whole) (hcut.first hother.whole)
  have hsame : front ++ (separator ++ back) = before ++ (separator ++ after) := by
    simpa only [List.append_assoc] using hother.whole.symm.trans hcut.whole
  obtain ⟨hfront, hbehind⟩ := List.append_inj hsame hlength
  exact ⟨hfront, List.append_cancel_left hbehind⟩

theorem firstCut_of_cutAtText? (hcut : cutAtText? separator text = some (before, after)) :
    FirstCut separator text before after := by
  refine ⟨eq_of_cutAtText?_eq_some hcut, fun {front back} hoccurs => ?_⟩
  induction text generalizing before front with
  | nil =>
      rw [cutAtText?] at hcut
      split at hcut
      next =>
        cases hcut
        exact Nat.zero_le _
      next => cases hcut
  | cons c rest ih =>
      rw [cutAtText?] at hcut
      split at hcut
      next =>
        cases hcut
        exact Nat.zero_le _
      next hlead =>
        obtain ⟨⟨piece, behind⟩, hrest, hsame⟩ := Option.map_eq_some_iff.mp hcut
        cases hsame
        cases front with
        | nil =>
            -- the separator would stand at the very beginning
            rw [List.nil_append] at hoccurs
            rw [dropLead?_eq_some_iff.mpr hoccurs] at hlead
            cases hlead
        | cons head front =>
            rw [List.cons_append, List.cons_append, List.cons.injEq] at hoccurs
            exact Nat.succ_le_succ (ih hrest hoccurs.2)

theorem cutAtText?_eq_some_iff :
    cutAtText? separator text = some (before, after) ↔ FirstCut separator text before after := by
  refine ⟨firstCut_of_cutAtText?, fun hcut => ?_⟩
  cases hfound : cutAtText? separator text with
  | none =>
      exact absurd ⟨before, after, hcut.whole.symm⟩ (cutAtText?_eq_none_iff.mp hfound)
  | some pieces =>
      obtain ⟨rfl, rfl⟩ := hcut.unique (firstCut_of_cutAtText? hfound)
      rfl

end Text

namespace Variables

open Text (FirstCut cutAtText?_eq_some_iff cutAtText?_eq_none_iff)

variable {bindings : Variables} {opener closer text literal raw later last : List Char}

/-! ## Spans and their absence -/

/-- Whether a text has an opening delimiter with a closing one somewhere behind it. -/
def HasSpan (opener closer text : List Char) : Prop :=
  ∃ front token back, text = front ++ opener ++ (token ++ closer ++ back)

theorem nextSpan?_eq_some_iff :
    nextSpan? opener closer text = some (literal, raw, later) ↔
      ∃ behind, FirstCut opener text literal behind ∧ FirstCut closer behind raw later := by
  simp only [nextSpan?, bind, Option.bind_eq_some_iff, pure, Option.some.injEq, Prod.mk.injEq,
    Prod.exists, cutAtText?_eq_some_iff]
  constructor
  · rintro ⟨front, behind, hopen, token, rest, hclose, rfl, rfl, rfl⟩
    exact ⟨behind, hopen, hclose⟩
  · rintro ⟨behind, hopen, hclose⟩
    exact ⟨literal, behind, hopen, raw, later, hclose, rfl, rfl, rfl⟩

/-- Where any opening delimiter is closed, the first one is. -/
theorem nextSpan?_eq_none_iff :
    nextSpan? opener closer text = none ↔ ¬HasSpan opener closer text := by
  constructor
  · rintro hnone ⟨front, token, back, htext⟩
    obtain ⟨literal, behind, hopen⟩ : ∃ literal behind, FirstCut opener text literal behind := by
      cases hfound : Text.cutAtText? opener text with
      | none =>
          exact absurd ⟨front, token ++ closer ++ back, htext.symm⟩
            (cutAtText?_eq_none_iff.mp hfound)
      | some pieces => exact ⟨pieces.1, pieces.2, cutAtText?_eq_some_iff.mp hfound⟩
    have hfront := hopen.first htext
    have hsuffix : token ++ closer ++ back <:+ behind := by
      have hrest : token ++ closer ++ back <:+ text := ⟨front ++ opener, by simp [htext]⟩
      have hbehind : behind <:+ text := ⟨literal ++ opener, by simp [hopen.whole]⟩
      refine List.suffix_of_suffix_length_le hrest hbehind ?_
      have hlength := congrArg List.length (htext.symm.trans hopen.whole)
      simp only [List.length_append] at hlength ⊢
      omega
    have hclosed : closer <:+: behind :=
      List.IsInfix.trans ⟨token, back, rfl⟩ hsuffix.isInfix
    cases hfound : Text.cutAtText? closer behind with
    | none => exact cutAtText?_eq_none_iff.mp hfound hclosed
    | some pieces =>
        have hspan : nextSpan? opener closer text = some (literal, pieces.1, pieces.2) :=
          nextSpan?_eq_some_iff.mpr ⟨behind, hopen, cutAtText?_eq_some_iff.mp hfound⟩
        cases hspan.symm.trans hnone
  · intro hplain
    cases hspan : nextSpan? opener closer text with
    | none => rfl
    | some span =>
        exact absurd ⟨span.1, span.2.1, span.2.2, eq_of_nextSpan?_eq_some hspan⟩ hplain

/-! ## The decomposition -/

/-- How delimiters decompose a text: the literal pieces, each with the token behind it, and the
literal piece at the end. -/
inductive Decomposed (opener closer : List Char) :
    List Char → List (List Char × List Char) → List Char → Prop
  | rest {text : List Char} (hplain : ¬HasSpan opener closer text) :
      Decomposed opener closer text [] text
  | span {text literal behind raw later last : List Char} {spans : List (List Char × List Char)}
      (hopen : FirstCut opener text literal behind) (hclose : FirstCut closer behind raw later)
      (hlater : Decomposed opener closer later spans last) :
      Decomposed opener closer text ((literal, raw) :: spans) last

variable {spans others : List (List Char × List Char)}

/-- The text of a decomposition. -/
def written (opener closer : List Char) (spans : List (List Char × List Char))
    (last : List Char) : List Char :=
  (spans.flatMap fun span => span.1 ++ opener ++ span.2 ++ closer) ++ last

/-- The name that a token stands for. -/
def tokenName (raw : List Char) : String :=
  String.ofList (Text.dropAround raw)

theorem Decomposed.written_eq (hcut : Decomposed opener closer text spans last) :
    written opener closer spans last = text := by
  induction hcut with
  | rest => rfl
  | span hopen hclose hlater ih =>
      rw [written] at ih
      rw [written, List.flatMap_cons, List.append_assoc, ih, hopen.whole, hclose.whole]
      simp only [List.append_assoc]

theorem Decomposed.unique {ending : List Char} (hcut : Decomposed opener closer text spans last)
    (hother : Decomposed opener closer text others ending) : others = spans ∧ ending = last := by
  induction hcut generalizing others ending with
  | rest hplain =>
      cases hother with
      | rest => exact ⟨rfl, rfl⟩
      | span hopen hclose hlater =>
          exact absurd ⟨_, _, _, hclose.whole ▸ hopen.whole⟩ hplain
  | span hopen hclose hlater ih =>
      cases hother with
      | rest hplain => exact absurd ⟨_, _, _, hclose.whole ▸ hopen.whole⟩ hplain
      | span hopen' hclose' hlater' =>
          obtain ⟨rfl, rfl⟩ := hopen.unique hopen'
          obtain ⟨rfl, rfl⟩ := hclose.unique hclose'
          obtain ⟨rfl, rfl⟩ := ih hlater'
          exact ⟨rfl, rfl⟩

theorem Decomposed.toSpans (hcut : Decomposed opener closer text spans last) :
    Spans opener closer text (spans.map fun span => (span.1, tokenName span.2)) last := by
  induction hcut with
  | rest hplain => exact .plain (nextSpan?_eq_none_iff.mpr hplain)
  | span hopen hclose hlater ih => exact .span (nextSpan?_eq_some_iff.mpr ⟨_, hopen, hclose⟩) ih

theorem exists_decomposed (hopener : opener ≠ []) (closer text : List Char) :
    ∃ spans last, Decomposed opener closer text spans last := by
  obtain ⟨names, last, hspans⟩ := exists_spans hopener closer text
  induction hspans with
  | @plain text hspan => exact ⟨[], text, .rest (nextSpan?_eq_none_iff.mp hspan)⟩
  | span hspan hspans ih =>
      obtain ⟨spans, last, hcut⟩ := ih
      obtain ⟨behind, hopen, hclose⟩ := nextSpan?_eq_some_iff.mp hspan
      exact ⟨_, last, .span hopen hclose hcut⟩

/-! ## Substitution along the decomposition -/

/-- The literal pieces with the text of a value in the place of every token. -/
def filled (value? : String → Option Json) (spans : List (List Char × List Char))
    (last : List Char) : List Char :=
  (spans.flatMap fun span =>
    span.1 ++ ((value? (tokenName span.2)).map fun value => (display value).toList).getD []) ++ last

/-- Spans are filled in completely, or not beyond the first that names no value. -/
theorem fill_eq (value? : String → Option Json) (spans : List (List Char × List Char))
    (last : List Char) :
    fill value? (spans.map fun span => (span.1, tokenName span.2)) last =
      match spans.find? fun span => (value? (tokenName span.2)).isNone with
      | some span => .error (.undefinedVariable (tokenName span.2))
      | none => .ok (filled value? spans last) := by
  induction spans with
  | nil => rfl
  | cons span spans ih =>
      rw [List.map_cons, fill, ih, List.find?_cons]
      cases hvalue : value? (tokenName span.2) with
      | none => rfl
      | some value =>
          dsimp only [Option.isNone_some]
          cases spans.find? fun span => (value? (tokenName span.2)).isNone with
          | some missing => rfl
          | none => simp [filled, hvalue, Except.map]

/-- Which delimiter a variable puts in force: its text where it holds one that is not empty, and the
default otherwise. -/
def InForce (bindings : Variables) (name fallback : String) (mark : List Char) : Prop :=
  (∃ text, bindings.get? name = some (.string text) ∧ text ≠ "" ∧ mark = text.toList) ∨
    (∀ text, bindings.get? name = some (.string text) → text = "") ∧ mark = fallback.toList

theorem inForce_delimiter (bindings : Variables) (name fallback : String) :
    InForce bindings name fallback (bindings.delimiter name fallback) := by
  rw [delimiter, getText?]
  cases hvalue : bindings.get? name with
  | none => exact .inr ⟨by simp [hvalue], rfl⟩
  | some value =>
      cases value with
      | string text =>
          by_cases hempty : text = ""
          · exact .inr ⟨by simp [hvalue, hempty], by simp [Json.asString?, hempty]⟩
          · exact .inl ⟨text, hvalue, hempty, by simp [Json.asString?, hempty]⟩
      | _ => exact .inr ⟨by simp [hvalue], rfl⟩

/-- The delimiters in force decompose a text in exactly one way.  Wherever they are in force,
substitution fails at the first token that names no value, and otherwise gives the literal pieces
with the values in the places of the tokens; a text without a span is its own substitution. -/
theorem substitution_goes_through_text_once (bindings : Variables) (text : String) :
    InForce bindings openerName defaultOpener bindings.opener ∧
    InForce bindings closerName defaultCloser bindings.closer ∧
    ∃ spans last,
      Decomposed bindings.opener bindings.closer text.toList spans last ∧
      written bindings.opener bindings.closer spans last = text.toList ∧
      (∀ others ending, Decomposed bindings.opener bindings.closer text.toList others ending →
        others = spans ∧ ending = last) ∧
      ∀ (other : Variables) (engine : List (String × Json)),
        other.opener = bindings.opener → other.closer = bindings.closer →
        (∀ span, spans.find? (fun span => (other.resolve? engine (tokenName span.2)).isNone) =
            some span →
          other.substitute engine text = .error (.undefinedVariable (tokenName span.2))) ∧
        ((∀ span ∈ spans, other.resolve? engine (tokenName span.2) ≠ none) →
          other.substitute engine text =
            .ok (String.ofList (filled (other.resolve? engine) spans last))) ∧
        (¬HasSpan bindings.opener bindings.closer text.toList →
          other.substitute engine text = .ok text) := by
  refine ⟨inForce_delimiter bindings _ _, inForce_delimiter bindings _ _, ?_⟩
  obtain ⟨spans, last, hcut⟩ :=
    exists_decomposed (opener_ne_nil bindings) bindings.closer text.toList
  refine ⟨spans, last, hcut, hcut.written_eq, fun _ _ hother => hcut.unique hother, ?_⟩
  intro other engine hopener hcloser
  have hfill := fill_eq (other.resolve? engine) spans last
  have hsubstitute : other.substitute engine text = _ :=
    substitute_eq_fill other engine (hopener ▸ hcloser ▸ hcut.toSpans)
  refine ⟨fun span hmissing => ?_, fun hvalues => ?_, fun hplain => ?_⟩
  · rw [hsubstitute, hfill, hmissing]
    rfl
  · have hfound : spans.find? (fun span =>
        (other.resolve? engine (tokenName span.2)).isNone) = none := by
      simpa [List.find?_eq_none, ← Option.isSome_iff_ne_none] using hvalues
    rw [hsubstitute, hfill, hfound]
    rfl
  · apply substitute_of_nextSpan?_eq_none
    rw [hopener, hcloser]
    exact nextSpan?_eq_none_iff.mpr hplain

/-- Variables whose delimiters are the same mark. -/
def percent : Variables :=
  ⟨[(closerName, .string "%"), (openerName, .string "%"), ("a", .string "%b%")]⟩

theorem substitution_goes_through_text_once_percent :
    Decomposed percent.opener percent.closer "x %a% y % z".toList [(['x', ' '], ['a'])]
      " y % z".toList ∧
    percent.substitute [] "x %a% y % z" = .ok "x %b% y % z" := by
  have hcut : Decomposed percent.opener percent.closer "x %a% y % z".toList
      [(['x', ' '], ['a'])] " y % z".toList := by
    obtain ⟨behind, hopen, hclose⟩ := nextSpan?_eq_some_iff.mp
      (show nextSpan? percent.opener percent.closer "x %a% y % z".toList =
        some (['x', ' '], ['a'], " y % z".toList) by decide +kernel)
    exact .span hopen hclose (.rest (nextSpan?_eq_none_iff.mp (by decide +kernel)))
  obtain ⟨-, -, spans, last, -, -, hunique, hfilled⟩ :=
    substitution_goes_through_text_once percent "x %a% y % z"
  obtain ⟨rfl, rfl⟩ := hunique _ _ hcut
  obtain ⟨-, hvalues, -⟩ := hfilled percent [] rfl rfl
  exact ⟨hcut, hvalues (by decide +kernel)⟩

end Variables

end PromptScript
