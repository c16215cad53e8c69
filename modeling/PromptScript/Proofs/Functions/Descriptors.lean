import Mathlib.Data.List.Forall2
import Mathlib.Data.List.Nodup
import PromptScript.Functions.Registry

/-!
# Descriptors of functions

What an executable says about its functions is read without regard to the text of its path, which
each descriptor only carries along.  Of the descriptors that are found one after another the first
of each name is kept, and the others are as if they had not been found.
-/

namespace PromptScript

namespace FunctionDescriptor

/-- The descriptor with the executable called by the given text. -/
def calledBy (executable : String) (descriptor : FunctionDescriptor) : FunctionDescriptor :=
  { descriptor with executable }

/-- Whether two descriptors are the same up to the texts of one path. -/
structure Alike (first second : FunctionDescriptor) : Prop where
  name : first.name = second.name
  description : first.description = second.description
  parameters : first.parameters = second.parameters
  executable : FunctionRegistry.samePath first.executable second.executable = true

/-! ## Manifests -/

theorem ofFields?_calledBy (path other : String) (name description parameters : Option Json) :
    ofFields? other name description parameters =
      (ofFields? path name description parameters).map (calledBy other) := by
  simp only [ofFields?, Option.bind_eq_bind, Option.map_bind, Function.comp_def]
  congr
  funext value
  congr
  funext text
  cases description with
  | none => rfl
  | some words => simp only [Option.map_bind, Function.comp_def, Option.map_some, calledBy]

theorem ofJson?_calledBy (path other : String) (value : Json) :
    ofJson? other value = (ofJson? path value).map (calledBy other) := by
  cases value with
  | object members =>
      simp only [ofJson?, Option.bind_eq_bind, Option.map_bind, Function.comp_def]
      congr
      funext first
      congr
      funext second
      cases first <;> cases second <;>
        simp only [Option.map_bind, Function.comp_def, ofFields?_calledBy path other,
          Option.map_none, Option.bind_none]
  | array items =>
      simp only [ofJson?, Option.bind_eq_bind, Option.map_bind, Function.comp_def]
      congr
      funext fields
      split
      next => exact ofFields?_calledBy path other _ _ _
      next => rfl
  | _ => rfl

theorem ofManifest?_calledBy (path other text : String) :
    ofManifest? other text = (ofManifest? path text).map (List.map (calledBy other)) := by
  simp only [ofManifest?, Option.bind_eq_bind, Option.map_bind, Function.comp_def]
  congr
  funext value
  congr
  funext items
  induction items with
  | nil => rfl
  | cons item rest ih =>
      simp only [List.mapM_cons, Option.bind_eq_bind, Option.map_bind, Function.comp_def, ih,
        ofJson?_calledBy path other, Option.bind_map, Option.pure_def, Option.map_some,
        List.map_cons]

end FunctionDescriptor

namespace FunctionRegistry

open FunctionDescriptor (Alike calledBy)

variable {known further others : List FunctionDescriptor} {name : String}

theorem samePath_iff {first second : String} :
    samePath first second = true ↔ Path.parts first = Path.parts second := by
  rw [samePath, beq_iff_eq]

/-- Descriptors that are alike to the same ones are alike. -/
theorem alike_of_common (hknown : List.Forall₂ Alike known others)
    (hfurther : List.Forall₂ Alike further others) : List.Forall₂ Alike known further := by
  induction hknown generalizing further with
  | nil =>
      cases hfurther
      exact .nil
  | cons hfirst hrest ih =>
      cases hfurther with
      | cons hsecond hlater =>
          refine .cons ⟨?_, ?_, ?_, ?_⟩ (ih hlater)
          · rw [hfirst.name, hsecond.name]
          · rw [hfirst.description, hsecond.description]
          · rw [hfirst.parameters, hsecond.parameters]
          · rw [samePath_iff, samePath_iff.mp hfirst.executable, samePath_iff.mp hsecond.executable]

/-- One outcome gives the same descriptors whatever the executable was called by. -/
theorem descriptorsOf_calledBy (path other : String) (outcome : Except FileError ProgramOutcome) :
    descriptorsOf other outcome = (descriptorsOf path outcome).map (calledBy other) := by
  rcases outcome with cause | output | _
  · rfl
  · simp only [descriptorsOf]
    split
    next =>
      rw [FunctionDescriptor.ofManifest?_calledBy path other]
      cases FunctionDescriptor.ofManifest? path output.output <;> rfl
    next => rfl
  · rfl

theorem descriptorsOf_alike {path other : String} (hsame : samePath path other = true)
    (outcome : Except FileError ProgramOutcome) :
    List.Forall₂ Alike (descriptorsOf path outcome) (descriptorsOf other outcome) := by
  rw [descriptorsOf_calledBy path other, descriptorsOf_calledBy path path, List.map_map,
    List.forall₂_map_left_iff, List.forall₂_map_right_iff]
  exact List.forall₂_same.mpr fun descriptor _ => ⟨rfl, rfl, rfl, hsame⟩

/-! ## The first of each name -/

theorem addNew_append (known further others : List FunctionDescriptor) :
    addNew known (further ++ others) = addNew (addNew known further) others :=
  List.foldl_append

theorem addNew_cons (known rest : List FunctionDescriptor) (descriptor : FunctionDescriptor) :
    addNew known (descriptor :: rest) =
      if descriptor.name ∈ known.map FunctionDescriptor.name then addNew known rest
      else addNew (known ++ [descriptor]) rest := by
  have hany : (known.any fun other => other.name == descriptor.name) =
      decide (descriptor.name ∈ known.map FunctionDescriptor.name) := by
    rw [Bool.eq_iff_iff]
    simp
  rw [addNew, List.foldl_cons, hany]
  simp only [decide_eq_true_eq]
  split <;> rfl

/-- The names that are new stand behind the known ones, each once. -/
theorem map_name_addNew (known further : List FunctionDescriptor) :
    (addNew known further).map FunctionDescriptor.name =
      known.map FunctionDescriptor.name ++
        ((further.map FunctionDescriptor.name).filter
          (· ∉ known.map FunctionDescriptor.name)).eraseDups := by
  induction further generalizing known with
  | nil => simp [addNew]
  | cons descriptor rest ih =>
      rw [addNew_cons, List.map_cons, List.filter_cons]
      split
      next hknown => simp only [hknown, not_true_eq_false, decide_false, Bool.false_eq_true,
        if_false, ih]
      next hknown =>
        simp only [hknown, not_false_eq_true, decide_true, if_true, ih, List.eraseDups_cons,
          List.filter_filter, List.map_append, List.map_singleton, List.append_assoc,
          List.singleton_append]
        congr 3
        refine List.filter_congr fun other _ => ?_
        rw [Bool.eq_iff_iff]
        simp [not_or, and_comm]

/-- A name stands for the first descriptor that has it. -/
theorem find?_addNew (known further : List FunctionDescriptor) (name : String) :
    (addNew known further).find? (·.name == name) = (known ++ further).find? (·.name == name) := by
  induction further generalizing known with
  | nil => simp [addNew]
  | cons descriptor rest ih =>
      rw [addNew_cons]
      split
      next hknown =>
        rw [ih, List.find?_append, List.find?_append]
        by_cases hname : descriptor.name = name
        · obtain ⟨other, hother, hsame⟩ := List.mem_map.mp hknown
          have hsome : (known.find? (·.name == name)).isSome := by
            rw [List.find?_isSome]
            exact ⟨other, hother, by rw [hsame, hname, beq_self_eq_true]⟩
          rw [Option.or_of_isSome hsome, Option.or_of_isSome hsome]
        · rw [List.find?_cons_of_neg (by simpa using hname)]
      next hknown => rw [ih, List.append_assoc, List.singleton_append]

theorem nodup_addNew (hknown : (known.map FunctionDescriptor.name).Nodup)
    (further : List FunctionDescriptor) :
    ((addNew known further).map FunctionDescriptor.name).Nodup := by
  induction further generalizing known with
  | nil => exact hknown
  | cons descriptor rest ih =>
      rw [addNew_cons]
      split
      next => exact ih hknown
      next hnew =>
        apply ih
        rw [List.map_append, List.map_singleton, List.nodup_append_comm, List.singleton_append]
        exact List.nodup_cons.mpr ⟨hnew, hknown⟩

theorem names_of_alike (halike : List.Forall₂ Alike known further) :
    known.map FunctionDescriptor.name = further.map FunctionDescriptor.name := by
  rw [← List.forall₂_eq_eq_eq, List.forall₂_map_left_iff, List.forall₂_map_right_iff]
  exact halike.imp fun first second => Alike.name

theorem declarations_of_alike (halike : List.Forall₂ Alike known further) :
    known.map FunctionDescriptor.declaration = further.map FunctionDescriptor.declaration := by
  rw [← List.forall₂_eq_eq_eq, List.forall₂_map_left_iff, List.forall₂_map_right_iff]
  refine halike.imp fun first second hsame => ?_
  rw [FunctionDescriptor.declaration, hsame.name, hsame.description, hsame.parameters]
  rfl

theorem find?_of_alike (halike : List.Forall₂ Alike known further) (name : String) :
    Option.Rel Alike (known.find? (·.name == name)) (further.find? (·.name == name)) := by
  induction halike with
  | nil => exact .none
  | cons hfirst hrest ih =>
      rw [List.find?_cons, List.find?_cons, hfirst.name]
      split
      next => exact .some hfirst
      next => exact ih

theorem addNew_alike {found : List FunctionDescriptor} (hknown : List.Forall₂ Alike known found)
    (hfurther : List.Forall₂ Alike further others) :
    List.Forall₂ Alike (addNew known further) (addNew found others) := by
  induction hfurther generalizing known found with
  | nil => exact hknown
  | cons hfirst hrest ih =>
      rw [addNew_cons, addNew_cons, names_of_alike hknown, hfirst.name]
      split
      next => exact ih hknown
      next => exact ih (List.rel_append hknown (.cons hfirst .nil))

end FunctionRegistry

end PromptScript
