/-
# Proofs.Content.Path -- walks along field paths

A path is written with dots between its segments and read again as those segments
(`FieldPath.pathSegments_text`), also where two paths are written one behind the other
(`pathSegments_append_dot`).  Following it is a walk: each segment leads on to what stands
under it, and the first one under which nothing stands ends the walk at the absent value
(`Value.Leads`).  A walk leads to one value, which is the one that is followed to
(`Value.leads_iff`).

So a walk can be taken up again at any value on the way (`Item.valueAt_append`): at an object
as a walk from there, and at a value without names to no avail (`Value.follow_of_isScalar`).
-/
import Wikilink.Proofs.Text.Split

namespace Wikilink

set_option autoImplicit false

/-! ## Paths as they are written -/

/-- The segments of two paths with a dot between them. -/
theorem pathSegments_append_dot (front back : String) :
    pathSegments (front ++ "." ++ back) = pathSegments front ++ pathSegments back := by
  have dot : ".".toList = ['.'] := rfl
  have whole : (front ++ "." ++ back).toList = front.toList ++ '.' :: back.toList := by
    rw [String.toList_append, String.toList_append, dot, List.append_assoc, List.singleton_append]
  rw [pathSegments, whole, Text.split_append_separator, List.map_append]
  rfl

theorem pathSegments_of_dotless {name : String} (dotless : '.' ∉ name.toList) :
    pathSegments name = [name] := by
  rw [pathSegments, Text.split_of_not_mem dotless, List.map_singleton, String.ofList_toList]

/-- The segments of a path: one or more, and no dot in any of them. -/
structure FieldPath where
  segments : List String
  nonempty : segments ≠ []
  dotless : ∀ segment ∈ segments, '.' ∉ segment.toList

namespace FieldPath

/-- The path as it is written. -/
def text (p : FieldPath) : String :=
  ".".intercalate p.segments

theorem pathSegments_text (p : FieldPath) : pathSegments p.text = p.segments :=
  pathSegments_intercalate p.nonempty p.dotless

end FieldPath

/-! ## Walks -/

namespace Value

/-- Where a walk along the segments leads: on to what stands under each of them, and to the absent
value from where nothing stands under the next one. -/
inductive Leads : Value → List String → Value → Prop where
  | here (v : Value) : Leads v [] v
  | on {v w x : Value} {name : String} {names : List String} (found : v.get? name = some w)
      (rest : Leads w names x) : Leads v (name :: names) x
  | lost {v : Value} {name : String} {names : List String} (missing : v.get? name = none) :
      Leads v (name :: names) .null

/-- Neither an object nor a mapping. -/
def IsScalar : Value → Prop
  | item _ => False
  | map _ => False
  | _ => True

variable {v w : Value} {name : String} {names : List String}

theorem get?_of_isScalar (scalar : v.IsScalar) (name : String) : v.get? name = none := by
  cases v with
  | item o => exact scalar.elim
  | map entries => exact scalar.elim
  | _ => rfl

theorem follow_cons (v : Value) (name : String) (names : List String) :
    v.follow (name :: names) = (v.step name).follow names :=
  rfl

theorem follow_append (v : Value) (front back : List String) :
    v.follow (front ++ back) = (v.follow front).follow back :=
  List.foldl_append

theorem step_of_some (found : v.get? name = some w) : v.step name = w := by
  rw [step, found, Option.getD_some]

theorem step_of_none (missing : v.get? name = none) : v.step name = .null := by
  rw [step, missing, Option.getD_none]

theorem follow_null (names : List String) : follow .null names = .null := by
  induction names with
  | nil => rfl
  | cons name names ih => exact ih

/-- A value without names leads nowhere. -/
theorem follow_of_isScalar (scalar : v.IsScalar) (name : String) (names : List String) :
    v.follow (name :: names) = .null := by
  rw [follow_cons, step_of_none (get?_of_isScalar scalar name), follow_null]

theorem follow_text (s name : String) (names : List String) :
    follow (.text s) (name :: names) = .null :=
  follow_of_isScalar (v := .text s) trivial name names

theorem leads_follow (v : Value) (names : List String) : Leads v names (v.follow names) := by
  induction names generalizing v with
  | nil => exact .here v
  | cons name names ih =>
      rw [follow_cons]
      cases under : v.get? name with
      | none =>
          rw [step_of_none under, follow_null]
          exact .lost under
      | some w =>
          rw [step_of_some under]
          exact .on under (ih w)

theorem Leads.follow_eq (leads : Leads v names w) : v.follow names = w := by
  induction leads with
  | here v => rfl
  | on found rest ih => rw [follow_cons, step_of_some found, ih]
  | lost missing => rw [follow_cons, step_of_none missing, follow_null]

/-- **A walk leads to one value.** -/
theorem leads_iff : Leads v names w ↔ v.follow names = w :=
  ⟨Leads.follow_eq, fun same => same ▸ leads_follow v names⟩

end Value

/-! ## Walks from an object -/

namespace Item

theorem valueAt_of_segments {o : Item} {path name : String} {names : List String}
    (segments : pathSegments path = name :: names) :
    o.valueAt path = ((Value.item o).step name).follow names := by
  rw [valueAt, segments]
  rfl

theorem valueAt_text (o : Item) (p : FieldPath) :
    o.valueAt p.text = (Value.item o).follow p.segments := by
  rw [valueAt, p.pathSegments_text]

/-- **A walk can be taken up again on the way.** -/
theorem valueAt_append (o : Item) (front back : String) :
    o.valueAt (front ++ "." ++ back) = (o.valueAt front).follow (pathSegments back) := by
  rw [valueAt, pathSegments_append_dot, Value.follow_append, valueAt]

/-- At an object on the way the rest is a path of that object. -/
theorem valueAt_append_of_item {o p : Item} {front : String}
    (reached : o.valueAt front = .item p) (back : String) :
    o.valueAt (front ++ "." ++ back) = p.valueAt back := by
  rw [valueAt_append, reached, valueAt]

theorem valueAt_append_of_isScalar {o : Item} {front : String}
    (scalar : (o.valueAt front).IsScalar) (back : String) :
    o.valueAt (front ++ "." ++ back) = .null := by
  rw [valueAt_append]
  cases segments : pathSegments back with
  | nil => exact absurd segments (pathSegments_ne_nil back)
  | cons name names => exact Value.follow_of_isScalar scalar name names

/-- In a mapping every name is an ordinary one. -/
theorem valueAt_append_of_map {o : Item} {front name : String} {entries : List (String × Value)}
    (reached : o.valueAt front = .map entries) (dotless : '.' ∉ name.toList) :
    o.valueAt (front ++ "." ++ name) = (List.lookup name entries).getD .null := by
  rw [valueAt_append, reached, pathSegments_of_dotless dotless]
  rfl

/-- Every object answers with its id. -/
theorem valueAt_idField (o : Item) : o.valueAt idField = .text (toString o.id) :=
  rfl

/-- Every object answers with its display. -/
theorem valueAt_displayField (o : Item) : o.valueAt displayField = .text o.display :=
  rfl

end Item

end Wikilink
