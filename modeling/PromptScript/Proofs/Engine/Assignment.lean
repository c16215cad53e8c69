import PromptScript.Proofs.Engine.Pairing
import PromptScript.Proofs.Variables.Decomposition

/-!
# Reading back what was set

A script sets a variable by its whole name, and reads a name up to its first dot as a variable and
behind it as a member of the object that this variable holds.  So a variable that was set is read
back where its name has no dot; a name with a dot reads the member, if there is one, and never the
variable of that name.
-/

namespace PromptScript

/-- A payload of a name and a value assigns the value without the blanks around it. -/
theorem Assignment.ofPayload_written {name : String} (hname : name ≠ "")
    (hplain : ∀ c ∈ name.toList, Text.isBlank c = false) (value : String) :
    ofPayload (name ++ " " ++ value) = ⟨name, Text.trim value⟩ := by
  have hchars : (name ++ " " ++ value).toList = name.toList ++ ' ' :: value.toList := by simp
  have hsome : name.toList ≠ [] := by simpa using hname
  have hleading : ∀ rest, Text.dropLeading (name.toList ++ rest) = name.toList ++ rest := by
    intro rest
    obtain ⟨c, more, hcons⟩ := List.exists_cons_of_ne_nil hsome
    rw [hcons, List.cons_append]
    exact Text.dropLeading_of_head (hplain c (hcons ▸ List.mem_cons_self))
  have hblank : Text.dropTrailing [' '] = [] := by decide
  rw [ofPayload, hchars]
  by_cases hvalue : Text.dropTrailing value.toList = []
  · have htrimmed : Text.dropAround (name.toList ++ ' ' :: value.toList) = name.toList := by
      rw [Text.dropAround, Text.dropTrailing_append, ← List.singleton_append,
        Text.dropTrailing_append, if_pos hvalue, if_pos hblank]
      exact (Text.trimmed_of_plain hplain).dropAround_eq
    have hempty : Text.trim value = "" := by
      rw [Text.trim, Text.dropAround, hvalue]
      rfl
    simp only [htrimmed, hempty, Text.cutAtBlank?_of_plain hplain, String.ofList_toList]
  · have htrimmed : Text.dropAround (name.toList ++ ' ' :: value.toList) =
        name.toList ++ ' ' :: Text.dropTrailing value.toList := by
      rw [Text.dropAround, Text.dropTrailing_append, ← List.singleton_append,
        Text.dropTrailing_append, if_neg hvalue, if_neg (by simp), hleading, List.singleton_append]
    have hvalue : Text.trim value =
        String.ofList (Text.dropAround (Text.dropTrailing value.toList)) := by
      rw [Text.trim, Text.dropAround, Text.dropAround, Text.dropTrailing_dropTrailing]
    simp only [htrimmed, hvalue, Text.cutAtBlank?_append hplain, String.ofList_toList]

namespace Variables

/-- Whether a name names a member of an object that a variable holds: the variable stands in front
of its first dot, and the member behind it. -/
def NamesMember (bindings : Variables) (name : String) (value : Json) : Prop :=
  ∃ owner member held, '.' ∉ owner.toList ∧ name = owner ++ "." ++ member ∧
    bindings.get? owner = some held ∧ held.member? member = some value

variable {bindings : Variables} {engine : List (String × Json)} {name : String}

theorem resolve?_of_dotted (hreserved : isReserved name = false) (hdot : '.' ∈ name.toList)
    (engine : List (String × Json)) {value : Json} :
    bindings.resolve? engine name = some value ↔ bindings.NamesMember name value := by
  obtain ⟨before, after, hcut⟩ : ∃ before after,
      Text.cutAt? '.' name.toList = some (before, after) := by
    cases hcut : Text.cutAt? '.' name.toList with
    | none => exact absurd hdot (Text.cutAt?_eq_none_iff.mp hcut)
    | some pieces => exact ⟨pieces.1, pieces.2, rfl⟩
  have hname := Text.eq_of_cutAt?_eq_some hcut
  have hbefore := Text.not_mem_of_cutAt?_eq_some hcut
  have hother : String.ofList before ≠ "VM" := by
    intro hvm
    have hvm := congrArg String.toList hvm
    rw [String.toList_ofList] at hvm
    simp [isReserved, hname, hvm] at hreserved
  rw [resolve?, hcut]
  simp only [if_neg hother]
  constructor
  · intro hvalue
    obtain ⟨held, hheld, hmember⟩ := Option.bind_eq_some_iff.mp hvalue
    refine ⟨_, _, held, by simpa using hbefore, ?_, hheld, hmember⟩
    rw [← String.toList_inj, hname]
    simp
  · rintro ⟨owner, member, held, howner, rfl, hheld, hmember⟩
    have hcut' : Text.cutAt? '.' (owner ++ "." ++ member).toList =
        some (owner.toList, member.toList) := by
      simpa using Text.cutAt?_of_not_mem howner member.toList
    rw [hcut'] at hcut
    cases hcut
    rw [String.ofList_toList, String.ofList_toList, hheld]
    exact hmember

/-- A name between the delimiters is replaced by what it reads, where the first closing delimiter is
the one behind it. -/
theorem substitute_name (engine : List (String × Json))
    (htrimmed : Text.Trimmed name.toList)
    (hfirst : Text.FirstCut bindings.closer (name.toList ++ bindings.closer) name.toList []) :
    bindings.substitute engine
        (String.ofList bindings.opener ++ name ++ String.ofList bindings.closer) =
      match bindings.resolve? engine name with
      | some value => .ok (display value)
      | none => .error (.undefinedVariable name) := by
  have hspan : nextSpan? bindings.opener bindings.closer
      (String.ofList bindings.opener ++ name ++ String.ofList bindings.closer).toList =
        some ([], name.toList, []) := by
    refine nextSpan?_eq_some_iff.mpr ⟨name.toList ++ bindings.closer, ⟨?_, ?_⟩, hfirst⟩
    · simp
    · exact fun _ => Nat.zero_le _
  have hnone : nextSpan? bindings.opener bindings.closer [] = none := by
    apply nextSpan?_eq_none_iff.mpr
    rintro ⟨front, token, back, hwhole⟩
    simp [opener_ne_nil] at hwhole
  rw [substitute_eq_fill bindings engine (.span hspan (.plain hnone)), htrimmed.dropAround_eq,
    String.ofList_toList, fill]
  cases bindings.resolve? engine name with
  | none => rfl
  | some value => simp [fill, Except.map]

end Variables

namespace Engine

open Variables (NamesMember valueOfText display)

/-- What comes of a statement that sets a variable, where it succeeds. -/
theorem step_of_setVariable {settings : Settings} {engine next : Engine} {world later : World}
    {status : RunStatus} {line : Nat} {name value : String} (hrunning : engine.status = .running)
    (hcurrent : engine.state.current? = some ⟨line, .setVariable, name ++ " " ++ value⟩)
    (hname : name ≠ "") (hplain : ∀ c ∈ name.toList, Text.isBlank c = false)
    (hstep : engine.step settings world = (.ok status, next, later)) :
    ∃ text, engine.state.substitute (Text.trim value) = .ok text ∧
      engine.state.bindings.set name (valueOfText text) = .ok next.state.bindings := by
  rcases hperform : Statement.perform settings ⟨line, .setVariable, name ++ " " ++ value⟩
    engine.state world with ⟨error | _, changed, last⟩
  · rw [step_of_error settings hrunning hcurrent hperform] at hstep
    cases hstep
  · rw [step_of_ok settings hrunning hcurrent hperform] at hstep
    cases hstep
    change Outcome.ofChange engine.state world
      (engine.state.setVariable (name ++ " " ++ value)) = _ at hperform
    cases hset : engine.state.setVariable (name ++ " " ++ value) with
    | error error =>
        rw [hset] at hperform
        cases hperform
    | ok assigned =>
        rw [hset] at hperform
        cases hperform
        simp only [ExecutionState.setVariable, ExecutionState.assign,
          Assignment.ofPayload_written hname hplain, Attempt.bind_eq_ok_iff,
          Attempt.pure_eq_ok_iff] at hset
        obtain ⟨text, htext, bindings, hbindings, rfl⟩ := hset
        exact ⟨text, htext, hbindings⟩

/-- A statement that sets a variable and succeeds stores the value that its text stands for.  Read
between the delimiters then in force, a name without a dot gives the text of that value.  A name
with a dot gives the text of the member that it names and fails where it names none, so it reads as
what was stored exactly if it names a member with the same text. -/
theorem set_variable_reads_back_iff (settings : Settings) {engine next : Engine}
    {world later : World} {status : RunStatus} {line : Nat} {name value : String}
    (hrunning : engine.status = .running)
    (hcurrent : engine.state.current? = some ⟨line, .setVariable, name ++ " " ++ value⟩)
    (hname : name ≠ "") (hplain : ∀ c ∈ name.toList, Text.isBlank c = false)
    (hstep : engine.step settings world = (.ok status, next, later))
    (hfirst : Text.FirstCut next.state.bindings.closer
      (name.toList ++ next.state.bindings.closer) name.toList []) :
    ∃ text stored reads, engine.state.substitute (Text.trim value) = .ok text ∧
      stored = valueOfText text ∧ next.state.bindings.get? name = some stored ∧
      next.state.substitute (String.ofList next.state.bindings.opener ++ name ++
        String.ofList next.state.bindings.closer) = reads ∧
      (reads = .ok (display stored) ↔ '.' ∉ name.toList ∨
        ∃ held, NamesMember next.state.bindings name held ∧ display held = display stored) ∧
      ('.' ∈ name.toList →
        (∀ held, NamesMember next.state.bindings name held → reads = .ok (display held)) ∧
        ((∀ held, ¬NamesMember next.state.bindings name held) →
          reads = .error (.undefinedVariable name))) := by
  obtain ⟨text, htext, hset⟩ := step_of_setVariable hrunning hcurrent hname hplain hstep
  have hstored := Variables.get?_of_set hset
  have hreserved : Variables.isReserved name = false := by
    by_contra hreserved
    rw [Variables.set, if_pos (by simpa using hreserved)] at hset
    cases hset
  refine ⟨text, _, _, htext, rfl, hstored, rfl, ?_⟩
  have hreads := Variables.substitute_name next.state.namespaceValues
    (Text.trimmed_of_plain hplain) hfirst
  rw [ExecutionState.substitute, hreads]
  by_cases hdot : '.' ∈ name.toList
  · have hresolve := @Variables.resolve?_of_dotted next.state.bindings name hreserved hdot
      next.state.namespaceValues
    cases hfound : next.state.bindings.resolve? next.state.namespaceValues name with
    | none =>
        have hnone : ∀ held, ¬NamesMember next.state.bindings name held := by
          intro held hheld
          rw [hresolve.mpr hheld] at hfound
          cases hfound
        refine ⟨?_, fun _ => ⟨fun held hheld => absurd hheld (hnone held), fun _ => rfl⟩⟩
        simp [hdot, hnone]
    | some found =>
        have hnames := hresolve.mp hfound
        have hunique : ∀ held, NamesMember next.state.bindings name held → held = found := by
          intro held hheld
          rw [hresolve.mpr hheld] at hfound
          exact Option.some.inj hfound
        refine ⟨?_, fun _ => ⟨fun held hheld => by rw [hunique held hheld],
          fun hnone => absurd hnames (hnone found)⟩⟩
        simp only [hdot, not_true_eq_false, false_or, Except.ok.injEq]
        constructor
        · exact fun hsame => ⟨found, hnames, hsame⟩
        · rintro ⟨held, hheld, hsame⟩
          rwa [hunique held hheld] at hsame
  · rw [Variables.resolve?_of_dotless _ _ hdot, hstored]
    exact ⟨iff_of_true rfl (.inl hdot), fun hmem => absurd hmem hdot⟩

/-- An engine that is about to set a variable. -/
def assigning (name value : String) : Engine :=
  .new "s" [⟨1, .setVariable, name ++ " " ++ value⟩] ⟨0, 0⟩

/-- A name without a dot is read back, and a name with one is not. -/
theorem set_variable_reads_back_iff_dotted :
    ((assigning "a" "true").step .bare .bare).2.1.state.substitute "<<a>>" = .ok "true" ∧
      ((assigning "a.b" "true").step .bare .bare).2.1.state.substitute "<<a.b>>" =
        .error (.undefinedVariable "a.b") := by
  have hstep : ∀ name, ((assigning name "true").step .bare .bare).1 = .ok .completed →
      (assigning name "true").step .bare .bare = (.ok .completed,
        ((assigning name "true").step .bare .bare).2.1,
        ((assigning name "true").step .bare .bare).2.2) := by
    intro name hok
    rw [← hok]
  constructor
  · obtain ⟨text, stored, reads, htext, rfl, -, hreads, hback, -⟩ :=
      set_variable_reads_back_iff .bare rfl rfl (by decide) (by simp [Text.isBlank])
        (hstep "a" (by decide +kernel)) (Text.cutAtText?_eq_some_iff.mp (by decide +kernel))
    have hsame : (assigning "a" "true").state.substitute (Text.trim "true") = .ok "true" := by
      decide +kernel
    have hdisplay : display (valueOfText "true") = "true" := by decide +kernel
    rw [hsame] at htext
    cases htext
    rw [hback.mpr (.inl (by decide)), hdisplay] at hreads
    exact hreads
  · obtain ⟨text, stored, reads, htext, rfl, -, hreads, -, hdotted⟩ :=
      set_variable_reads_back_iff .bare rfl rfl (by decide) (by simp [Text.isBlank])
        (hstep "a.b" (by decide +kernel)) (Text.cutAtText?_eq_some_iff.mp (by decide +kernel))
    have hnone : ∀ held, ¬NamesMember
        ((assigning "a.b" "true").step .bare .bare).2.1.state.bindings "a.b" held := by
      intro held hheld
      have hresolve := Variables.resolve?_of_dotted (by decide) (by decide)
        ((assigning "a.b" "true").step .bare .bare).2.1.state.namespaceValues |>.mpr hheld
      have hmissing : ((assigning "a.b" "true").step .bare .bare).2.1.state.bindings.resolve?
          ((assigning "a.b" "true").step .bare .bare).2.1.state.namespaceValues "a.b" = none := by
        decide +kernel
      rw [hmissing] at hresolve
      cases hresolve
    rw [(hdotted (by decide)).2 hnone] at hreads
    exact hreads

end Engine

end PromptScript
