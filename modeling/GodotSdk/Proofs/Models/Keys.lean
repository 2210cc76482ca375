import GodotSdk.Proofs.Models.Writing

/-!
# Keys

The statements of a model find its data by the keys of its properties, which are the
names that the properties had at first. Properties of an accepted API differ in the
names that they have now. So two of them can only have the same key if one is given a
first name that is the key of the other, and this an accepted API does not rule out.
-/

namespace GodotSdk.Script

/-! ## Literals of statements -/

namespace Expr

mutual
/-- The texts of the string literals in an expression. -/
def literals : Expr → List String
  | .text value => [value]
  | .emptyDictionary | .null | .variable _ => []
  | .field object _ => object.literals
  | .index object key => object.literals ++ key.literals
  | .invoke object _ arguments => object.literals ++ literalsOf arguments
  | .dictionary entries => entryLiterals entries
  | .not operand => operand.literals
  | .and left right => left.literals ++ right.literals

def literalsOf : List Expr → List String
  | [] => []
  | first :: rest => first.literals ++ literalsOf rest

def entryLiterals : List (Expr × Expr) → List String
  | [] => []
  | (key, value) :: rest => key.literals ++ value.literals ++ entryLiterals rest
end

end Expr

namespace Statement

mutual
/-- The texts of the string literals in a statement. -/
def literals : Statement → List String
  | .declare _ value | .perform value | .answer value => value.literals
  | .assign target value => target.literals ++ value.literals
  | .call _ arguments => Expr.literalsOf arguments
  | .choose branches => branchLiterals branches
  | .invokeWith object _ arguments _ body =>
      object.literals ++ Expr.literalsOf arguments ++ literalsOf body
  | .pass | .leave => []

def literalsOf : List Statement → List String
  | [] => []
  | first :: rest => first.literals ++ literalsOf rest

def branchLiterals : List (Expr × List Statement) → List String
  | [] => []
  | (condition, body) :: rest =>
      condition.literals ++ literalsOf body ++ branchLiterals rest
end

/-- No two of several statements have a string literal in common. -/
def Apart (statements : List Statement) : Prop :=
  statements.Pairwise fun left right => left.literals.Disjoint right.literals

end Statement

namespace Member

variable (member : Member)

/-- The statement that fills a member has its key twice: in the test for it and where it
is taken. -/
theorem literals_load : member.load.literals = [member.key, member.key] := rfl

theorem literals_store : member.store.literals = [member.key] := rfl

/-- Statements that have no literals but the keys of their members are apart if those
keys are. -/
theorem apart_iff {members : List Member} {statement : Member → Statement}
    (keyed : ∀ member text, text ∈ (statement member).literals ↔ text = member.key) :
    Statement.Apart (members.map statement) ↔ (members.map key).Nodup := by
  rw [Statement.Apart, List.Nodup, List.pairwise_map, List.pairwise_map]
  apply List.Pairwise.iff
  intro left right
  simp only [List.Disjoint, keyed]
  constructor
  · intro apart same
    exact apart rfl same
  · intro different text here there
    exact different (here.symm.trans there)

end Member

end GodotSdk.Script

namespace GodotSdk

/-! ## Properties with one key -/

/-- A first name that a property is given is the key of no other property. -/
def Datatype.OwnsKeys (datatype : Datatype) : Prop :=
  ∀ first ∈ datatype.properties, ∀ second ∈ datatype.properties,
    first.originalName = some second.wireName → first = second

instance (datatype : Datatype) : Decidable datatype.OwnsKeys :=
  inferInstanceAs (Decidable (∀ first ∈ datatype.properties, _))

theorem Property.wireName_of_some {property : Property} {name : String}
    (renamed : property.originalName = some name) :
    property.wireName = name := by
  rw [wireName, renamed, Option.getD_some]

theorem Property.wireName_of_none {property : Property}
    (unchanged : property.originalName = none) :
    property.wireName = property.name := by
  rw [wireName, unchanged, Option.getD_none]

/-- Properties of different names have different keys exactly if no first name is the
key of another one. -/
theorem Datatype.nodup_wireNames_iff {datatype : Datatype}
    (distinct : (datatype.properties.map (·.name)).Nodup) :
    (datatype.properties.map Property.wireName).Nodup ↔ datatype.OwnsKeys := by
  rw [List.nodup_map_iff_inj_on (List.Nodup.of_map _ distinct)]
  constructor
  · intro keys first declared second also renamed
    exact keys first declared second also (Property.wireName_of_some renamed)
  · intro owns first declared second also shared
    cases renamed : first.originalName with
    | some name =>
        rw [Property.wireName_of_some renamed] at shared
        rw [shared] at renamed
        exact owns first declared second also renamed
    | none =>
        cases alsoRenamed : second.originalName with
        | some name =>
            rw [Property.wireName_of_some alsoRenamed] at shared
            rw [← shared] at alsoRenamed
            exact (owns second also first declared alsoRenamed).symm
        | none =>
            rw [Property.wireName_of_none renamed,
              Property.wireName_of_none alsoRenamed] at shared
            exact List.inj_on_of_nodup_map distinct declared also shared

namespace Script

variable {sdk : Sdk} {api : ApiDescription} {accepted : Sanitized} {datatype : Datatype}

/-- The properties of a datatype of an accepted API have different names. -/
theorem nodup_properties (accepts : sdk.accept api = .ok accepted)
    (described : datatype ∈ api.datatypes) :
    (datatype.properties.map (·.name)).Nodup := by
  have members := nodup_members accepts described
  simp only [List.map_map, Function.comp_def, Member.name_of] at members
  have renamed :
      ((datatype.properties.map (·.name)).map sdk.names.sanitizer.propertyName).Nodup :=
    by
    rw [List.map_map]
    exact members
  exact List.Nodup.of_map _ renamed

/-- The keys of a datatype are different from each other exactly if the statements that
fill its members have no literal in common, exactly if the statements that write them
have none, and exactly if no first name is the key of another property. -/
theorem keys_tfae (accepts : sdk.accept api = .ok accepted)
    (described : datatype ∈ api.datatypes) :
    [(datatype.properties.map Property.wireName).Nodup,
      Statement.Apart
        ((modelMembers sdk (sdk.names.sanitizer.datatype datatype)).map Member.load),
      Statement.Apart
        ((modelMembers sdk (sdk.names.sanitizer.datatype datatype)).map Member.store),
      datatype.OwnsKeys].TFAE := by
  have owned := Datatype.nodup_wireNames_iff (nodup_properties accepts described)
  rw [modelMembers_datatype, Member.apart_iff (by simp [Member.literals_load]),
    Member.apart_iff (by simp [Member.literals_store]), map_key_of]
  tfae_have 1 ↔ 2 := Iff.rfl
  tfae_have 1 ↔ 3 := Iff.rfl
  tfae_have 1 ↔ 4 := owned
  tfae_finish

/-- First names that no other property has for its key, though some of them are names of
other members. -/
def ownKeys : ApiDescription :=
  textsClass [("Id", some "id"), ("id", some "ID"), ("Thread", none),
    ("thread_", some "Thread_")]

theorem keys_tfae_ownKeys :
    Sdk.standard.accept ownKeys = .ok (Sdk.standard.names.sanitizer.sanitize ownKeys) ∧
      ownKeys.datatypes[0] ∈ ownKeys.datatypes ∧
      (ownKeys.datatypes[0].properties.map Property.wireName).Nodup := by
  have accepts : Sdk.standard.accept ownKeys =
      .ok (Sdk.standard.names.sanitizer.sanitize ownKeys) :=
    Sdk.accept_standard (by decide)
  have described : ownKeys.datatypes[0] ∈ ownKeys.datatypes := List.getElem_mem _
  exact ⟨accepts, described, ((keys_tfae accepts described).out 0 3).mpr (by decide)⟩

/-- Of two properties with different names, one is given the name of the other one for
its key. -/
theorem sharedKey_not_nodup :
    Sdk.standard.accept sharedKey =
      .ok (Sdk.standard.names.sanitizer.sanitize sharedKey) ∧
      sharedKey.datatypes[0].properties.map (·.name) = ["Id", "Alias"] ∧
      sharedKey.datatypes[0].properties.map Property.wireName = ["Id", "Id"] ∧
      ¬ (sharedKey.datatypes[0].properties.map Property.wireName).Nodup :=
  ⟨Sdk.accept_standard (by decide), rfl, rfl, by decide⟩

end Script

end GodotSdk
