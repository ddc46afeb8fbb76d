import AdbDaemon.Common.Text

/-!
# Paths

Paths with `/` between their components, and where they lead. A place is the list of the directories
from the root down to it. `walk place p` is where `p` leads from `place`, read lexically: `..` goes
back to the parent, at the root it stays there, and an absolute path starts over.

Joining two paths and following the result is following one after the other (`walk_join`), and a path
that is a single `Name` leads to the entry of that name (`walk_name`).
-/

namespace AdbDaemon.Common

/-- A component that names an entry of the directory it stands in. -/
def IsName (s : String) : Prop := s ≠ "" ∧ '/' ∉ s.toList ∧ s ≠ "." ∧ s ≠ ".."

instance (s : String) : Decidable (IsName s) :=
  inferInstanceAs (Decidable (s ≠ "" ∧ '/' ∉ s.toList ∧ s ≠ "." ∧ s ≠ ".."))

/-- The names that entries of a directory have. -/
abbrev Name : Type := { s : String // IsName s }

def isAbsolute (p : String) : Bool := p.toList.head? == some '/'

/-- `Path::join` -/
def join (base p : String) : String :=
  if isAbsolute p then p
  else if base = "" ∨ base.toList.getLast? = some '/' then base ++ p
  else base ++ "/" ++ p

/-- One component further. -/
def enter (place : List String) (component : String) : List String :=
  if component = "" ∨ component = "." then place
  else if component = ".." then place.dropLast
  else place ++ [component]

/-- The place to which a path leads. -/
def walk (place : List String) (p : String) : List String :=
  (split '/' p).foldl enter (if isAbsolute p then [] else place)

example : walk ["var", "log"] "../lib/./x/" = ["var", "lib", "x"] := by decide

/-! ## Components -/

/-- The parts of a path below another are the parts of both. -/
theorem split_append (a b : String) : split '/' (a ++ "/" ++ b) = split '/' a ++ split '/' b := by
  have hlist : (a ++ "/" ++ b).toList = a.toList ++ '/' :: b.toList := by simp
  rw [split, hlist, List.splitOn_append_cons_self, List.map_append, ← split, ← split]

/-- To walk along two paths is to walk along one and then along the other. -/
theorem foldl_split_append (place : List String) (a b : String) :
    (split '/' (a ++ "/" ++ b)).foldl enter place =
      (split '/' b).foldl enter ((split '/' a).foldl enter place) := by
  rw [split_append, List.foldl_append]

/-- The empty path has one part, which leads nowhere. -/
theorem foldl_split_empty (place : List String) : (split '/' "").foldl enter place = place := rfl

/-- The text before the slash at which a join puts the second path. -/
theorem exists_join_eq {base p : String} (hp : isAbsolute p = false) (hbase : base ≠ "") :
    ∃ a, join base p = a ++ "/" ++ p ∧ isAbsolute (join base p) = isAbsolute base ∧
      ∀ place, (split '/' base).foldl enter place = (split '/' a).foldl enter place := by
  obtain ⟨c, cs, hcs⟩ : ∃ c cs, base.toList = c :: cs := by
    refine List.exists_cons_of_ne_nil fun hnil => hbase ?_
    rw [← String.toList_inj, hnil]
    rfl
  rw [join, hp, if_neg (by simp)]
  by_cases hlast : base.toList.getLast? = some '/'
  · -- the slash is there already
    obtain ⟨front, hfront⟩ := List.getLast?_eq_some_iff.mp hlast
    have hbase' : base = String.ofList front ++ "/" ++ "" := by
      rw [← String.toList_inj, hfront]
      simp
    refine ⟨String.ofList front, ?_, ?_, fun place => ?_⟩
    · rw [if_pos (.inr hlast)]
      conv_lhs => rw [hbase']
      simp
    · rw [if_pos (.inr hlast)]
      simp [isAbsolute, String.toList_append, hcs]
    · conv_lhs => rw [hbase']
      rw [foldl_split_append, foldl_split_empty]
  · refine ⟨base, ?_, ?_, fun place => rfl⟩
    · rw [if_neg (by simp [hbase, hlast])]
    · rw [if_neg (by simp [hbase, hlast])]
      simp [isAbsolute, String.toList_append, hcs]

/-- The empty path stays where one is. -/
@[simp] theorem walk_empty (place : List String) : walk place "" = place := rfl

/-- A join leads where the second path leads from where the first one led. -/
theorem walk_join (place : List String) (base p : String) :
    walk place (join base p) = walk (walk place base) p := by
  cases hp : isAbsolute p with
  | true => simp [join, walk, hp]
  | false =>
    by_cases hbase : base = ""
    · rw [hbase, walk_empty, join, hp]
      simp
    · obtain ⟨a, hjoin, habs, hfold⟩ := exists_join_eq hp hbase
      rw [walk, habs, hjoin, foldl_split_append, walk, walk, hp, hfold]
      rfl

/-- Without a slash a path is relative. -/
theorem isAbsolute_eq_false {p : String} (h : '/' ∉ p.toList) : isAbsolute p = false := by
  rw [isAbsolute, beq_eq_false_iff_ne]
  intro hhead
  exact h (List.mem_of_mem_head? hhead)

/-- A plain name leads one level down. -/
theorem walk_name {n : String} (h : IsName n) (place : List String) :
    walk place n = place ++ [n] := by
  obtain ⟨hne, hslash, hdot, hdots⟩ := h
  have hrel : isAbsolute n = false := isAbsolute_eq_false hslash
  have hsplit : split '/' n = [n] := by
    rw [split, List.splitOn_eq_singleton hslash, List.map_singleton, String.ofList_toList]
  rw [walk, hrel, hsplit, if_neg (by simp), List.foldl_cons, List.foldl_nil, enter,
    if_neg (by simp [hne, hdot]), if_neg hdots]

end AdbDaemon.Common
