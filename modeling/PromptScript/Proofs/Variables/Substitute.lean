import PromptScript.Proofs.Text.Trim
import PromptScript.Variables.Substitute

/-!
# Substitution

A text without a span is its own substitution, and a text without a dot reads nothing but variables.
The spans of a text are read from left to right: substitution succeeds where each of them names a
value, and otherwise fails at the first that names none.
-/

namespace PromptScript

namespace Text

/-- A text is cut exactly where the separator occurs in it. -/
theorem cutAtText?_eq_none_iff {separator text : List Char} :
    cutAtText? separator text = none ↔ ¬separator <:+: text := by
  induction text with
  | nil =>
      cases separator with
      | nil => simp [cutAtText?]
      | cons c rest => simp [cutAtText?]
  | cons c rest ih =>
      rw [cutAtText?, List.infix_cons_iff]
      cases hlead : dropLead? separator (c :: rest) with
      | some after =>
          have hbegins : separator <+: c :: rest := ⟨after, (dropLead?_eq_some_iff.mp hlead).symm⟩
          simp [hbegins]
      | none =>
          have hbegins : ¬separator <+: c :: rest := by
            rintro ⟨after, hafter⟩
            rw [dropLead?_eq_some_iff.mpr hafter.symm] at hlead
            exact nomatch hlead
          simp [hbegins, ih]

/-- Where a text is cut, the separator stands between the two pieces. -/
theorem eq_of_cutAtText?_eq_some {separator text before after : List Char}
    (hcut : cutAtText? separator text = some (before, after)) :
    text = before ++ separator ++ after := by
  induction text generalizing before after with
  | nil =>
      rw [cutAtText?] at hcut
      split at hcut
      next hempty =>
        cases hcut
        simpa using hempty
      next => exact nomatch hcut
  | cons c rest ih =>
      rw [cutAtText?] at hcut
      split at hcut
      next behind hlead =>
        cases hcut
        exact dropLead?_eq_some_iff.mp hlead
      next =>
        obtain ⟨⟨first, last⟩, hrest, hsame⟩ := Option.map_eq_some_iff.mp hcut
        cases hsame
        simp [ih hrest]

end Text

namespace Variables

theorem get?_of_set {bindings next : Variables} {name : String} {value : Json}
    (hset : bindings.set name value = .ok next) : next.get? name = some value := by
  rw [set] at hset
  split at hset
  next => exact nomatch hset
  next =>
    split at hset
    next => exact nomatch hset
    next =>
      cases hset
      exact Json.lookup?_insertMember_self name value bindings.entries

/-- A text without a span is its own substitution. -/
theorem substitute_of_nextSpan?_eq_none (bindings : Variables) (engine : List (String × Json))
    {text : String} (hspan : nextSpan? bindings.opener bindings.closer text.toList = none) :
    bindings.substitute engine text = .ok text := by
  have hsame : ∀ fuel, substituteChars bindings engine bindings.opener bindings.closer fuel
      text.toList = .ok text.toList := by
    intro fuel
    cases fuel with
    | zero => rfl
    | succ fuel => rw [substituteChars, hspan]
  rw [substitute]
  simp only [hsame, Except.map, String.ofList_toList]

/-- A text in which the opening delimiter does not occur is its own substitution. -/
theorem substitute_of_absent (bindings : Variables) (engine : List (String × Json))
    {text : String} (habsent : ¬bindings.opener <:+: text.toList) :
    bindings.substitute engine text = .ok text := by
  apply substitute_of_nextSpan?_eq_none
  rw [nextSpan?, Text.cutAtText?_eq_none_iff.mpr habsent]
  rfl

/-- A span is a part of its text. -/
theorem eq_of_nextSpan?_eq_some {opener closer text before token rest : List Char}
    (hspan : nextSpan? opener closer text = some (before, token, rest)) :
    text = before ++ opener ++ (token ++ closer ++ rest) := by
  rw [nextSpan?] at hspan
  obtain ⟨⟨first, behind⟩, hopen, hspan⟩ := Option.bind_eq_some_iff.mp hspan
  obtain ⟨⟨middle, last⟩, hclose, hspan⟩ := Option.bind_eq_some_iff.mp hspan
  cases hspan
  rw [← Text.eq_of_cutAtText?_eq_some hclose]
  exact Text.eq_of_cutAtText?_eq_some hopen

theorem resolve?_of_dotless (bindings : Variables) (engine : List (String × Json)) {token : String}
    (hdot : '.' ∉ token.toList) : bindings.resolve? engine token = bindings.get? token := by
  rw [resolve?, Text.cutAt?_eq_none_iff.mpr hdot]

theorem substituteChars_of_dotless (bindings : Variables) (first second : List (String × Json))
    (opener closer : List Char) (fuel : Nat) {text : List Char} (hdot : '.' ∉ text) :
    substituteChars bindings first opener closer fuel text =
      substituteChars bindings second opener closer fuel text := by
  induction fuel generalizing text with
  | zero => rfl
  | succ fuel ih =>
      rw [substituteChars, substituteChars]
      cases hspan : nextSpan? opener closer text with
      | none => rfl
      | some span =>
          obtain ⟨before, raw, rest⟩ := span
          have htext := eq_of_nextSpan?_eq_some hspan
          have hraw : '.' ∉ raw := by
            intro hmem
            exact hdot (by rw [htext]; simp [hmem])
          have hrest : '.' ∉ rest := by
            intro hmem
            exact hdot (by rw [htext]; simp [hmem])
          have htoken : '.' ∉ (String.ofList (Text.dropAround raw)).toList := by
            rw [String.toList_ofList]
            exact fun hmem => hraw (Text.dropAround_subset raw hmem)
          simp only [resolve?_of_dotless bindings _ htoken, ih hrest]

/-- A text without a dot reads no value of the engine. -/
theorem substitute_of_dotless (bindings : Variables) (first second : List (String × Json))
    {text : String} (hdot : '.' ∉ text.toList) :
    bindings.substitute first text = bindings.substitute second text := by
  rw [substitute, substitute]
  simp only [substituteChars_of_dotless bindings first second _ _ _ hdot]

/-!
## Filling in spans

The delimiters alone cut a text into spans, each with the text before it and the name in it.
Substitution fills in the spans one after another, so what stands for one of them depends neither on
those before it nor on those behind it.
-/

variable {bindings : Variables} {opener closer text : List Char}

theorem delimiter_ne_nil (bindings : Variables) (name : String) {fallback : String}
    (hfallback : fallback.toList ≠ []) : bindings.delimiter name fallback ≠ [] := by
  unfold delimiter
  split
  next held _ =>
    split
    next => exact hfallback
    next hheld =>
      intro hnil
      exact hheld (String.isEmpty_iff.mpr (String.toList_eq_nil_iff.mp hnil))
  next => exact hfallback

theorem opener_ne_nil (bindings : Variables) : bindings.opener ≠ [] :=
  delimiter_ne_nil bindings openerName (by decide)

/-- Behind a span less is left of the text. -/
theorem length_lt_of_nextSpan? {before raw rest : List Char} (hopener : opener ≠ [])
    (hspan : nextSpan? opener closer text = some (before, raw, rest)) :
    rest.length < text.length := by
  have hpositive : 0 < opener.length := List.length_pos_iff.mpr hopener
  rw [eq_of_nextSpan?_eq_some hspan]
  simp only [List.length_append]
  omega

/-- How delimiters cut a text: the spans, each with the text before it and its name, and the text
behind them. -/
inductive Spans (opener closer : List Char) :
    List Char → List (List Char × String) → List Char → Prop
  | plain {text : List Char} (hspan : nextSpan? opener closer text = none) :
      Spans opener closer text [] text
  | span {text before raw behind rest : List Char} {spans : List (List Char × String)}
      (hspan : nextSpan? opener closer text = some (before, raw, behind))
      (hspans : Spans opener closer behind spans rest) :
      Spans opener closer text ((before, String.ofList (Text.dropAround raw)) :: spans) rest

/-- The text in which every span is replaced by the value of its name, or the error that there is
none. -/
def fill (value? : String → Option Json) : List (List Char × String) → List Char →
    Except RunError (List Char)
  | [], rest => .ok rest
  | (before, name) :: spans, rest =>
    match value? name with
    | none => .error (.undefinedVariable name)
    | some value => (fill value? spans rest).map fun later =>
        before ++ (display value).toList ++ later

variable {rest : List Char} {spans : List (List Char × String)}

theorem exists_spans (hopener : opener ≠ []) (closer text : List Char) :
    ∃ spans rest, Spans opener closer text spans rest := by
  induction hlength : text.length using Nat.strongRecOn generalizing text with
  | ind length ih =>
      cases hspan : nextSpan? opener closer text with
      | none => exact ⟨[], text, .plain hspan⟩
      | some span =>
          obtain ⟨before, raw, behind⟩ := span
          have hless := length_lt_of_nextSpan? hopener hspan
          obtain ⟨spans, rest, hspans⟩ := ih behind.length (hlength ▸ hless) behind rfl
          exact ⟨_, rest, .span hspan hspans⟩

/-- Substitution fills in the spans. -/
theorem substituteChars_eq_fill (bindings : Variables) (engine : List (String × Json))
    (hopener : opener ≠ []) (hspans : Spans opener closer text spans rest) {fuel : Nat}
    (hfuel : text.length ≤ fuel) :
    bindings.substituteChars engine opener closer fuel text =
      fill (bindings.resolve? engine) spans rest := by
  induction hspans generalizing fuel with
  | plain hspan =>
      cases fuel with
      | zero => rfl
      | succ fuel => rw [substituteChars, hspan, fill]
  | @span text before raw behind rest spans hspan hspans ih =>
      have hless := length_lt_of_nextSpan? hopener hspan
      cases fuel with
      | zero => omega
      | succ fuel =>
          have hfuel : behind.length ≤ fuel := by omega
          cases hvalue : bindings.resolve? engine (String.ofList (Text.dropAround raw)) with
          | none => simp only [substituteChars, hspan, fill, hvalue]
          | some value => simp only [substituteChars, hspan, fill, hvalue, ih hfuel]

theorem substitute_eq_fill (bindings : Variables) (engine : List (String × Json)) {text : String}
    (hspans : Spans bindings.opener bindings.closer text.toList spans rest) :
    bindings.substitute engine text =
      (fill (bindings.resolve? engine) spans rest).map String.ofList := by
  rw [substitute, ← substituteChars_eq_fill bindings engine (opener_ne_nil bindings) hspans
    (Nat.le_refl _)]

/-- A span among others is filled in by the value of its own name. -/
theorem fill_append (value? : String → Option Json) (front back : List (List Char × String))
    (before : List Char) (name : String) (rest : List Char) :
    fill value? (front ++ (before, name) :: back) rest = do
      let first ← fill value? front before
      match value? name with
      | none => .error (.undefinedVariable name)
      | some value =>
        let last ← fill value? back rest
        return first ++ (display value).toList ++ last := by
  induction front with
  | nil =>
      rw [List.nil_append, fill, fill]
      cases value? name with
      | none => rfl
      | some value => cases fill value? back rest <;> rfl
  | cons span spans ih =>
      obtain ⟨literal, other⟩ := span
      rw [List.cons_append, fill, fill]
      cases value? other with
      | none => rfl
      | some held =>
          simp only [ih]
          cases fill value? spans before with
          | error error => rfl
          | ok first =>
              cases hvalue : value? name with
              | none => rfl
              | some value =>
                  cases fill value? back rest with
                  | error error => rfl
                  | ok last =>
                    change Except.ok (literal ++ (display held).toList
                      ++ (first ++ (display value).toList ++ last)) = .ok _
                    simp only [List.append_assoc]

/-! ## The names in spans -/

/-- The names in the spans of a text, in order. -/
inductive Names (opener closer : List Char) : List Char → List String → Prop
  | plain {text : List Char} (hspan : nextSpan? opener closer text = none) :
      Names opener closer text []
  | span {text before raw rest : List Char} {names : List String}
      (hspan : nextSpan? opener closer text = some (before, raw, rest))
      (hrest : Names opener closer rest names) :
      Names opener closer text (String.ofList (Text.dropAround raw) :: names)

variable {names : List String}

theorem Spans.toNames (hspans : Spans opener closer text spans rest) :
    Names opener closer text (spans.map Prod.snd) := by
  induction hspans with
  | plain hspan => exact .plain hspan
  | span hspan hspans ih => exact .span hspan ih

theorem Names.exists_spans (hnames : Names opener closer text names) :
    ∃ spans rest, Spans opener closer text spans rest ∧ spans.map Prod.snd = names := by
  induction hnames with
  | @plain text hspan => exact ⟨[], text, .plain hspan, rfl⟩
  | span hspan hnames ih =>
      obtain ⟨spans, rest, hspans, rfl⟩ := ih
      exact ⟨_, rest, .span hspan hspans, rfl⟩

theorem exists_names (hopener : opener ≠ []) (closer text : List Char) :
    ∃ names, Names opener closer text names := by
  obtain ⟨spans, rest, hspans⟩ := exists_spans hopener closer text
  exact ⟨_, hspans.toNames⟩

/-- The first name for which there is no value. -/
def firstUndefined? (bindings : Variables) (engine : List (String × Json)) (names : List String) :
    Option String :=
  names.find? fun name => (bindings.resolve? engine name).isNone

theorem fill_of_names (bindings : Variables) (engine : List (String × Json))
    (spans : List (List Char × String)) (rest : List Char) :
    match bindings.firstUndefined? engine (spans.map Prod.snd) with
    | none => ∃ result, fill (bindings.resolve? engine) spans rest = .ok result
    | some name => fill (bindings.resolve? engine) spans rest = .error (.undefinedVariable name) := by
  induction spans with
  | nil => exact ⟨rest, rfl⟩
  | cons span spans ih =>
      obtain ⟨before, name⟩ := span
      rw [List.map_cons, firstUndefined?, List.find?_cons, fill]
      rw [firstUndefined?] at ih
      cases hvalue : bindings.resolve? engine name with
      | none => rfl
      | some value =>
          dsimp only [Option.isNone_some]
          split at ih
          next hnone =>
            obtain ⟨result, hresult⟩ := ih
            rw [hnone]
            exact ⟨_, by rw [hresult]; rfl⟩
          next other hfirst =>
            rw [hfirst]
            exact congrArg (Except.map _) ih

/-- Substitution gives a text where every span names a value, and fails at the first other one. -/
theorem substitute_of_names (engine : List (String × Json)) {text : String}
    (hnames : Names bindings.opener bindings.closer text.toList names) :
    match bindings.firstUndefined? engine names with
    | none => ∃ result, bindings.substitute engine text = .ok result
    | some name => bindings.substitute engine text = .error (.undefinedVariable name) := by
  obtain ⟨spans, rest, hspans, rfl⟩ := hnames.exists_spans
  have hfill := fill_of_names bindings engine spans rest
  rw [substitute_eq_fill bindings engine hspans]
  split at hfill
  next =>
    obtain ⟨result, hresult⟩ := hfill
    exact ⟨String.ofList result, congrArg (Except.map _) hresult⟩
  next name => exact congrArg (Except.map _) hfill

theorem substitute_of_plain (engine : List (String × Json)) {text : String}
    (hnames : Names bindings.opener bindings.closer text.toList []) :
    bindings.substitute engine text = .ok text := by
  cases hnames with
  | plain hspan => exact substitute_of_nextSpan?_eq_none bindings engine hspan

/-- A name in the namespace of the engine stands for the engine's value, whatever the variables
hold. -/
theorem resolve?_namespace (bindings : Variables) (engine : List (String × Json))
    (member : String) :
    bindings.resolve? engine ("VM." ++ member) = Json.lookup? member engine := by
  have hcut : Text.cutAt? '.' ("VM." ++ member).toList = some (['V', 'M'], member.toList) := by
    simp [Text.cutAt?]
  rw [resolve?, hcut]
  simp

end Variables

end PromptScript
