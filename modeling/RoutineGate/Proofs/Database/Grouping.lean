import Mathlib.Data.List.Induction
import Mathlib.Data.List.Nodup
import Mathlib.Data.List.Perm.Basic
import RoutineGate.Database.Catalog

/-!
# Grouping the rows of a catalog

The rows of one name may stand anywhere in a catalog, between those of other names.  Each name
still has a single procedure, with all that its own rows list and nothing else, so only the
order among the rows of one name matters.
-/

namespace RoutineGate
namespace Database

/-- The rows with a name, in order. -/
def rowsOf (name : String) (rows : List CatalogRow) : List CatalogRow :=
  rows.filter fun row => row.name = name

/-- Procedures that have what the rows of their names list. -/
structure Groups (rows : List CatalogRow) (procedures : List Procedure) : Prop where
  /-- Each name has one procedure, in the order of the first rows. -/
  names : procedures.map Procedure.name = (rows.map CatalogRow.name).eraseDups
  /-- The first row of a name tells the definition. -/
  definition : ∀ procedure ∈ procedures,
    (rowsOf procedure.name rows).head?.map CatalogRow.definition = some procedure.definition
  /-- Each row of a name tells one parameter, unless that is left out or empty. -/
  parameters : ∀ procedure ∈ procedures,
    procedure.parameters =
      ((rowsOf procedure.name rows).filterMap CatalogRow.parameter).filter (· ≠ "")

/-! ## Entries in the order of their first places -/

section FirstPlaces

variable {Entry : Type} [DecidableEq Entry]

theorem eraseDups_concat
    (entries : List Entry)
    (entry : Entry) :
    (entries ++ [entry]).eraseDups =
      if entry ∈ entries then entries.eraseDups else entries.eraseDups ++ [entry] := by
  rw [List.eraseDups_append, List.removeAll]
  by_cases listed : entry ∈ entries <;> simp [listed, List.eraseDups_cons]

theorem nodup_eraseDups (entries : List Entry) : entries.eraseDups.Nodup := by
  induction entries using List.reverseRecOn with
  | nil => exact List.nodup_nil
  | append_singleton entries entry inductionHypothesis =>
      rw [eraseDups_concat]
      split
      · exact inductionHypothesis
      · next absent =>
          have apart : entry ∉ entries.eraseDups := mt List.mem_eraseDups.mp absent
          refine List.nodup_append.mpr ⟨inductionHypothesis, List.nodup_singleton entry, ?_⟩
          intro other listed last same
          obtain rfl := List.mem_singleton.mp same
          exact ne_of_mem_of_not_mem listed apart

end FirstPlaces

/-! ## Adding a row -/

theorem rowsOf_concat
    (name : String)
    (rows : List CatalogRow)
    (row : CatalogRow) :
    rowsOf name (rows ++ [row]) =
      if row.name = name then rowsOf name rows ++ [row] else rowsOf name rows := by
  rw [rowsOf, List.filter_append]
  by_cases same : row.name = name <;> simp [rowsOf, same]

theorem rowsOf_eq_nil_iff
    {name : String}
    {rows : List CatalogRow} :
    rowsOf name rows = [] ↔ name ∉ rows.map CatalogRow.name := by
  simp only [rowsOf, List.filter_eq_nil_iff, decide_eq_true_eq, List.mem_map, not_exists, not_and]

/-- The parameters that rows list: one for each row, unless it is left out or empty. -/
def listedParameters (rows : List CatalogRow) : List String :=
  (rows.filterMap CatalogRow.parameter).filter (· ≠ "")

namespace Grouping

/-- What a grouping tells of each name when it knows rows. -/
structure Knows (grouping : Grouping) (rows : List CatalogRow) : Prop where
  names : grouping.names = (rows.map CatalogRow.name).eraseDups
  definition : ∀ name,
    grouping.definitions.lookup name = (rowsOf name rows).head?.map CatalogRow.definition
  parameters : ∀ name,
    (grouping.parameters.lookup name).getD [] = listedParameters (rowsOf name rows)

variable {grouping : Grouping} {rows : List CatalogRow}

theorem Knows.isSome_definition_iff
    (knows : grouping.Knows rows)
    {name : String} :
    (grouping.definitions.lookup name).isSome = true ↔ name ∈ rows.map CatalogRow.name := by
  rw [knows.definition, ← not_iff_not, ← rowsOf_eq_nil_iff]
  cases rowsOf name rows <;> simp

/-- Taking up the procedure of a row changes nothing but what is told of a new name. -/
theorem Knows.introduce
    (knows : grouping.Knows rows)
    (row : CatalogRow) :
    (grouping.introduce row).names = ((rows ++ [row]).map CatalogRow.name).eraseDups ∧
      (∀ name, (grouping.introduce row).definitions.lookup name =
        (rowsOf name (rows ++ [row])).head?.map CatalogRow.definition) ∧
      ∀ name, ((grouping.introduce row).parameters.lookup name).getD [] =
        listedParameters (rowsOf name rows) := by
  rw [List.map_append, List.map_singleton, eraseDups_concat, Grouping.introduce]
  by_cases known : row.name ∈ rows.map CatalogRow.name
  · rw [if_pos (knows.isSome_definition_iff.mpr known), if_pos known]
    refine ⟨knows.names, fun name => ?_, knows.parameters⟩
    rw [knows.definition, rowsOf_concat]
    split
    · next same =>
        subst same
        cases own : rowsOf row.name rows with
        | nil => exact absurd known (rowsOf_eq_nil_iff.mp own)
        | cons first more => rfl
    · rfl
  · rw [if_neg (mt knows.isSome_definition_iff.mp known), if_neg known]
    have none := rowsOf_eq_nil_iff.mpr known
    refine ⟨by rw [knows.names], fun name => ?_, fun name => ?_⟩
    · rw [rowsOf_concat]
      by_cases same : row.name = name
      · subst same
        simp [none]
      · rw [Value.lookup_put_of_ne (Ne.symm same), if_neg same, knows.definition]
    · by_cases same : row.name = name
      · subst same
        simp [none, listedParameters]
      · rw [Value.lookup_put_of_ne (Ne.symm same), knows.parameters]

/-- A row adds its parameter to those of its name. -/
theorem listedParameters_concat
    (row : CatalogRow) :
    listedParameters (rows ++ [row]) =
      listedParameters rows ++
        (row.parameter.filter fun parameter => !parameter.isEmpty).toList := by
  cases given : row.parameter with
  | none => simp [listedParameters, given]
  | some parameter =>
      by_cases empty : parameter = "" <;>
        simp [listedParameters, given, empty, Option.filter_some]

/-- Adding a row keeps what is known of the rows before it. -/
theorem Knows.add
    (knows : grouping.Knows rows)
    (row : CatalogRow) :
    (grouping.add row).Knows (rows ++ [row]) := by
  obtain ⟨names, definition, parameters⟩ := knows.introduce row
  have told (name : String) : listedParameters (rowsOf name (rows ++ [row])) =
      if row.name = name then
        listedParameters (rowsOf name rows) ++
          (row.parameter.filter fun parameter => !parameter.isEmpty).toList
      else listedParameters (rowsOf name rows) := by
    rw [rowsOf_concat]
    split
    · exact listedParameters_concat row
    · rfl
  rw [Grouping.add, addParameter]
  cases given : row.parameter.filter fun parameter => !parameter.isEmpty with
  | none =>
      refine ⟨names, definition, fun name => ?_⟩
      rw [parameters, told, given]
      simp
  | some parameter =>
      refine ⟨names, definition, fun name => ?_⟩
      rw [told, given]
      by_cases same : row.name = name
      · subst same
        simp [parameters]
      · simp only
        rw [Value.lookup_put_of_ne (Ne.symm same), parameters, if_neg same]

/-- What is known after each row of a catalog. -/
theorem Knows.foldl
    (knows : grouping.Knows rows)
    (more : List CatalogRow) :
    (more.foldl Grouping.add grouping).Knows (rows ++ more) := by
  induction more generalizing grouping rows with
  | nil => rwa [List.append_nil]
  | cons row more inductionHypothesis =>
      have others := inductionHypothesis (knows.add row)
      rwa [List.append_assoc, List.singleton_append] at others

end Grouping

namespace Groups

variable {rows others : List CatalogRow} {procedures otherProcedures : List Procedure}

theorem nodup_names (groups : Groups rows procedures) :
    (procedures.map Procedure.name).Nodup := by
  rw [groups.names]
  exact nodup_eraseDups _

theorem mem_names_iff
    (groups : Groups rows procedures)
    {name : String} :
    name ∈ procedures.map Procedure.name ↔ name ∈ rows.map CatalogRow.name := by
  rw [groups.names, List.mem_eraseDups]

/-- A procedure depends on the rows of its own name only. -/
theorem mem_of_agree
    (groups : Groups rows procedures)
    (otherGroups : Groups others otherProcedures)
    (agree : ∀ name, rowsOf name others = rowsOf name rows)
    {procedure : Procedure}
    (member : procedure ∈ procedures) :
    procedure ∈ otherProcedures := by
  have named := groups.mem_names_iff.mp (List.mem_map_of_mem member)
  have listed : procedure.name ∈ others.map CatalogRow.name := by
    by_contra absent
    obtain ⟨row, inRows, same⟩ := List.mem_map.mp named
    have own : row ∈ rowsOf procedure.name rows := List.mem_filter.mpr ⟨inRows, by simpa using same⟩
    rw [← agree, rowsOf_eq_nil_iff.mpr absent] at own
    exact absurd own List.not_mem_nil
  obtain ⟨other, otherMember, same⟩ := List.mem_map.mp (otherGroups.mem_names_iff.mpr listed)
  have definition := groups.definition procedure member
  have parameters := groups.parameters procedure member
  rw [← agree, ← same] at definition parameters
  have sameDefinition := (otherGroups.definition other otherMember).symm.trans definition
  have sameParameters := (otherGroups.parameters other otherMember).trans parameters.symm
  have equal : other = procedure := by
    cases other
    cases procedure
    simp_all
  exact equal ▸ otherMember

end Groups

/-- The procedures of what is known of rows. -/
theorem groups_of_knows
    {grouping : Grouping}
    {rows : List CatalogRow}
    (knows : grouping.Knows rows) :
    Groups rows (grouping.names.map grouping.procedure) where
  names := by
    rw [List.map_map, ← knows.names]
    exact List.map_id _
  definition procedure member := by
    obtain ⟨name, listed, rfl⟩ := List.mem_map.mp member
    rw [knows.names, List.mem_eraseDups, ← knows.isSome_definition_iff] at listed
    obtain ⟨definition, told⟩ := Option.isSome_iff_exists.mp listed
    rw [Grouping.procedure, ← knows.definition, told, Option.join_some]
  parameters procedure member := by
    obtain ⟨name, -, rfl⟩ := List.mem_map.mp member
    exact knows.parameters name

theorem groups_proceduresOf (rows : List CatalogRow) : Groups rows (proceduresOf rows) := by
  have none : Grouping.Knows {} [] := ⟨rfl, fun _ => rfl, fun _ => rfl⟩
  exact groups_of_knows (none.foldl rows)

/--
A catalog has one procedure for each name, with what the rows of the name list in their order.
Catalogs that agree on the rows of each name have the same procedures, up to their order.
-/
theorem grouped_proceduresOf (rows : List CatalogRow) :
    Groups rows (proceduresOf rows) ∧
      ∀ others, (∀ name, rowsOf name others = rowsOf name rows) →
        (proceduresOf others).Perm (proceduresOf rows) := by
  have groups := groups_proceduresOf rows
  refine ⟨groups, fun others agree => ?_⟩
  have otherGroups := groups_proceduresOf others
  have distinct := List.Nodup.of_map Procedure.name groups.nodup_names
  have otherDistinct := List.Nodup.of_map Procedure.name otherGroups.nodup_names
  refine (List.perm_ext_iff_of_nodup otherDistinct distinct).mpr fun procedure => ⟨?_, ?_⟩
  · exact otherGroups.mem_of_agree groups fun name => (agree name).symm
  · exact groups.mem_of_agree otherGroups agree

/-- The rows of two procedures, the parameters of one of them between those of the other. -/
def mixedRows : List CatalogRow :=
  [⟨"api_get_b", none, some "p_x"⟩, ⟨"api_get_a", some "BEGIN END", some "p_x"⟩,
    ⟨"api_get_b", some "later", some ""⟩, ⟨"api_get_a", none, some "p_y"⟩,
    ⟨"api_get_b", none, some "p_x"⟩]

/-- The same rows with those of each procedure together. -/
def sortedRows : List CatalogRow :=
  [⟨"api_get_a", some "BEGIN END", some "p_x"⟩, ⟨"api_get_a", none, some "p_y"⟩,
    ⟨"api_get_b", none, some "p_x"⟩, ⟨"api_get_b", some "later", some ""⟩,
    ⟨"api_get_b", none, some "p_x"⟩]

theorem grouped_proceduresOf_mixedRows :
    Groups mixedRows (proceduresOf mixedRows) ∧
      proceduresOf mixedRows =
        [⟨"api_get_b", none, ["p_x", "p_x"]⟩, ⟨"api_get_a", some "BEGIN END", ["p_x", "p_y"]⟩] ∧
      (proceduresOf sortedRows).Perm (proceduresOf mixedRows) := by
  obtain ⟨groups, reordered⟩ := grouped_proceduresOf mixedRows
  refine ⟨groups, by decide +kernel, reordered sortedRows fun name => ?_⟩
  by_cases first : "api_get_a" = name
  · subst first
    rfl
  · by_cases second : "api_get_b" = name
    · subst second
      rfl
    · simp [rowsOf, sortedRows, mixedRows, first, second]

end Database
end RoutineGate
