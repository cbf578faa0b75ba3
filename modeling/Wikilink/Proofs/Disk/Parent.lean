/-
# Proofs.Disk.Parent -- the directory of a file that is there

The directory of a path is nothing, the root, or what stands before one of its slashes
(`parent?_eq_some`).  So the walk along a path goes through the directory first, and where
that walk ends nothing is left to be made (`makeDirectory_parent`).
-/
import Wikilink.Proofs.Disk.Files
import Wikilink.Proofs.Text.Split

namespace Wikilink

set_option autoImplicit false

/-! ## Parents as text -/

namespace Disk

/-- What is left of a path behind a slash stands behind a slash. -/
theorem exists_dropTail (rest : List Char) : ∃ tail, '/' :: rest = tail ++ '/' :: dropTail rest := by
  induction length : rest.length using Nat.strongRecOn generalizing rest with
  | _ n ih =>
    subst length
    fun_cases dropTail rest with
    | case1 rest =>
        obtain ⟨tail, whole⟩ := ih rest.length (by simp only [List.length_cons]; omega) rest rfl
        exact ⟨'/' :: tail, by rw [List.cons_append, ← whole]⟩
    | case2 => exact ⟨[], rfl⟩
    | case3 rest =>
        obtain ⟨tail, whole⟩ := ih rest.length (by simp only [List.length_cons]; omega) rest rfl
        refine ⟨'/' :: '.' :: tail, ?_⟩
        rw [dropTail, List.cons_append, List.cons_append, ← whole]
    | case4 => exact ⟨[], rfl⟩

theorem dropTail_suffix (s : List Char) : dropTail s <:+ s := by
  obtain ⟨tail, whole⟩ := exists_dropTail s
  cases tail with
  | nil => exact ⟨[], (List.cons.inj whole).2.symm⟩
  | cons c tail =>
      refine ⟨tail ++ ['/'], ?_⟩
      rw [List.append_assoc]
      exact (List.cons.inj whole).2.symm

theorem dropRootTail_cases (s : List Char) : dropRootTail s = [] ∨ dropRootTail s = dropTail s := by
  unfold dropRootTail
  simp only
  split
  · exact .inl rfl
  · exact .inr rfl

theorem dropRootTail_suffix (s : List Char) : dropRootTail s <:+ s := by
  rcases dropRootTail_cases s with none | same
  · rw [none]
    exact List.nil_suffix
  · rw [same]
    exact dropTail_suffix s

/-- Written backwards, a directory is nothing or what stands behind a slash. -/
theorem exists_name (backwards : List Char) :
    dropTail (backwards.dropWhile (· ≠ '/')) = [] ∨
      ∃ name, backwards = name ++ '/' :: dropTail (backwards.dropWhile (· ≠ '/')) := by
  cases behind : backwards.dropWhile (· ≠ '/') with
  | nil => exact .inl rfl
  | cons c rest =>
      have slash : c = '/' := by
        have stops := List.head?_dropWhile_not (· ≠ '/') backwards
        rw [behind] at stops
        simpa using stops
      subst slash
      obtain ⟨tail, whole⟩ := exists_dropTail rest
      refine .inr ⟨backwards.takeWhile (· ≠ '/') ++ tail, ?_⟩
      rw [dropTail, List.append_assoc, ← whole, ← behind, List.takeWhile_append_dropWhile]

/-- What stands behind a slash backwards stands before one. -/
theorem eq_reverse_append {s backwards name rest : List Char} (suffix : backwards <:+ s.reverse)
    (whole : backwards = name ++ '/' :: rest) : ∃ behind, s = rest.reverse ++ '/' :: behind := by
  obtain ⟨tail, same⟩ := suffix
  refine ⟨(tail ++ name).reverse, ?_⟩
  rw [← List.reverse_reverse s, ← same, whole]
  simp

/-- **The directory of a path is nothing, the root, or what stands before a slash.** -/
theorem parent?_eq_some {path directory : String} (parent : parent? path = some directory) :
    directory = "" ∨ directory = "/" ∨
      ∃ behind, path.toList = directory.toList ++ '/' :: behind := by
  unfold parent? at parent
  split at parent
  · rename_i cs absolute
    have suffix := dropRootTail_suffix cs.reverse
    split at parent
    · cases parent
    · obtain rfl := Option.some.inj parent
      refine .inr ?_
      rcases dropRootTail_cases ((dropRootTail cs.reverse).dropWhile (· ≠ '/')) with none | same
      · exact .inl (by rw [none]; rfl)
      · rw [same]
        rcases exists_name (dropRootTail cs.reverse) with none | ⟨name, whole⟩
        · exact .inl (by rw [none]; rfl)
        · obtain ⟨behind, front⟩ := eq_reverse_append suffix whole
          refine .inr ⟨behind, ?_⟩
          rw [absolute, String.toList_ofList, List.cons_append, ← front]
  · rename_i relative
    have suffix := dropTail_suffix path.toList.reverse
    split at parent
    · cases parent
    · obtain rfl := Option.some.inj parent
      rcases exists_name (dropTail path.toList.reverse) with none | ⟨name, whole⟩
      · exact .inl (by rw [none]; rfl)
      · obtain ⟨behind, same⟩ := eq_reverse_append suffix whole
        exact .inr (.inr ⟨behind, by rw [String.toList_ofList, ← same]⟩)

end Disk

/-! ## Directories on the way -/

namespace Files

variable {f : Files} {path directory : String} {place goal : Place}

/-- A walk that goes on begins at a directory. -/
theorem node?_of_walk {front rest : List String} {name : String}
    (walked : f.walk place (front ++ name :: rest) = .ok goal) :
    f.node? place = some .directory := by
  cases front with
  | nil => exact (walk_cons_eq_ok_iff.mp walked).1
  | cons n front => exact (walk_cons_eq_ok_iff.mp walked).1

/-- Along a walk that goes on, nothing is left to be made. -/
theorem makeAlong_of_walk {front rest : List String} {name : String}
    (walked : f.walk place (front ++ name :: rest) = .ok goal) :
    f.makeAlong place front = (f, .ok ()) := by
  induction front generalizing place with
  | nil =>
      have here := node?_eq_directory_iff.mp (node?_of_walk walked)
      rw [makeAlong, if_pos here]
  | cons n front ih =>
      obtain ⟨-, short, walked⟩ := walk_cons_eq_ok_iff.mp walked
      rw [makeAlong]
      simp only [if_neg short, node?_of_walk walked, ih walked]

theorem makeDirectory_root : f.makeDirectory "/" = (f, .ok ()) := by
  have here : f.node? [] = some .directory := if_pos rfl
  have directory : f.isDirectory [] = true := node?_eq_directory_iff.mp here
  have slashes : names "/" = ["", ""] := rfl
  have start : f.start "/" = [] := rfl
  have stay : step [] "" = [] := rfl
  have short : ¬ nameLimit < "".utf8ByteSize := by decide
  have sound : pathFault? "/" = none := by decide
  unfold makeDirectory
  rw [if_neg (by decide), sound]
  simp only [slashes, start, makeAlong, stay, if_neg short, here, if_pos directory]

variable {behind : List Char}

theorem names_of_slash (whole : path.toList = directory.toList ++ '/' :: behind) :
    ∃ name rest, names path = names directory ++ name :: rest := by
  cases parts : Text.split '/' behind with
  | nil => exact absurd parts (Text.split_ne_nil behind)
  | cons name rest =>
      refine ⟨String.ofList name, rest.map String.ofList, ?_⟩
      rw [names, whole, Text.split_append_separator, parts, List.map_append, List.map_cons]
      rfl

theorem start_of_slash (whole : path.toList = directory.toList ++ '/' :: behind)
    (nonempty : directory.isEmpty = false) : f.start directory = f.start path := by
  have filled : directory.toList ≠ [] := by simpa using nonempty
  obtain ⟨c, cs, first⟩ := List.exists_cons_of_ne_nil filled
  simp [start, Disk.isAbsolute, whole, first]

/-- A path before a slash is as sound as the whole path. -/
theorem pathFault?_of_slash (sound : pathFault? path = none)
    (whole : path.toList = directory.toList ++ '/' :: behind) (nonempty : directory.isEmpty = false) :
    pathFault? directory = none := by
  have joined : path = directory ++ String.ofList ('/' :: behind) :=
    String.toList_injective (by rw [whole, String.toList_append, String.toList_ofList])
  unfold pathFault? at *
  split at sound
  · cases sound
  · rename_i free
    split at sound
    · cases sound
    · rename_i short
      have free' : '\x00' ∉ directory.toList := fun mem => free (by simp [whole, mem])
      have short' : ¬ pathLimit < directory.utf8ByteSize := by
        rw [joined, String.utf8ByteSize_append] at short
        omega
      rw [if_neg free', if_neg short', nonempty]
      rfl

/-- **Where a path leads anywhere, its directory is there.** -/
theorem makeDirectory_parent (leads : f.place? path = .ok place)
    (parent : Disk.parent? path = some directory) : f.makeDirectory directory = (f, .ok ()) := by
  rcases Disk.parent?_eq_some parent with rfl | rfl | ⟨behind, whole⟩
  · rfl
  · exact makeDirectory_root
  · cases empty : directory.isEmpty with
    | true =>
        unfold makeDirectory
        rw [if_pos empty]
    | false =>
        unfold place? at leads
        cases sound : pathFault? path with
        | some fault =>
            rw [sound] at leads
            cases leads
        | none =>
            obtain ⟨name, rest, along⟩ := names_of_slash whole
            unfold makeDirectory
            rw [if_neg (by simp [empty]), pathFault?_of_slash sound whole empty,
              start_of_slash whole empty]
            rw [sound, along] at leads
            exact makeAlong_of_walk leads

end Files

end Wikilink
