import Mathlib.Data.List.Nodup
import Mathlib.Order.Basic

/-!
# File Systems with Symbolic Links

A tree says what is at each location.  A path is walked from the root, name by name, through
the links on the way, of which a walk takes a limited number.  With fewer entries a walk can
fail where it succeeded, but it never ends elsewhere; this is what the invariants of programs
that delete files rest on.

Over trees, a file system is a finite list of entries, each in a directory, and the operations
of `java.io.File` are the ones that follow links (`exists`, `isDirectory`, `listFiles`) and the
one that does not (`delete`).
-/

namespace DarkMed.Lib.FileSystem

variable {Name : Type}

/-- The names from the location up to the root, which is `[]`. -/
abbrev Location (Name : Type) := List Name

inductive Component (Name : Type) where
  /-- `..` -/
  | up
  | name (n : Name)
  deriving DecidableEq, Repr

/-- The text of a symbolic link. -/
structure Target (Name : Type) where
  absolute : Bool
  components : List (Component Name)
  deriving DecidableEq, Repr

inductive Node (Name : Type) where
  | file
  | directory
  | link (target : Target Name)
  deriving DecidableEq, Repr

/-- What is at each location. -/
abbrev Tree (Name : Type) := Location Name → Option (Node Name)

/-- The root is a directory without an entry. -/
def isDir (t : Tree Name) : Location Name → Bool
  | [] => true
  | n :: l =>
    match t (n :: l) with
    | some .directory => true
    | _ => false

/-! ## Walks -/

/-- Where components lead from a location; `jump` goes on behind a link. -/
def walkWith (t : Tree Name) (jump : Location Name → List (Component Name) → Option (Location Name)) :
    Location Name → List (Component Name) → Option (Location Name)
  | l, [] => some l
  | l, .up :: cs => if isDir t l then walkWith t jump l.tail cs else none
  | l, .name n :: cs =>
    if isDir t l then
      match t (n :: l) with
      | none => none
      | some (.link target) => jump (if target.absolute then [] else l) (target.components ++ cs)
      | some _ => walkWith t jump (n :: l) cs
    else none

/-- A walk that takes at most that many links. -/
def walk (t : Tree Name) : Nat → Location Name → List (Component Name) → Option (Location Name)
  | 0 => walkWith t fun _ _ => none
  | k + 1 => walkWith t (walk t k)

/-- The ways of a walk, step by step. -/
inductive Walks (t : Tree Name) :
    Nat → Location Name → List (Component Name) → Location Name → Prop where
  | here {k : Nat} {l : Location Name} : Walks t k l [] l
  | up {k : Nat} {l r : Location Name} {cs : List (Component Name)} (dir : isDir t l = true)
      (rest : Walks t k l.tail cs r) : Walks t k l (.up :: cs) r
  | plain {k : Nat} {l r : Location Name} {n : Name} {cs : List (Component Name)}
      (dir : isDir t l = true) (node : t (n :: l) = some .file ∨ t (n :: l) = some .directory)
      (rest : Walks t k (n :: l) cs r) : Walks t k l (.name n :: cs) r
  | link {k : Nat} {l r : Location Name} {n : Name} {cs : List (Component Name)}
      {target : Target Name} (dir : isDir t l = true) (node : t (n :: l) = some (.link target))
      (rest : Walks t k (if target.absolute then [] else l) (target.components ++ cs) r) :
      Walks t (k + 1) l (.name n :: cs) r

section Walks

variable {t t' : Tree Name} {k : Nat} {l r : Location Name} {cs ds : List (Component Name)}

/-- A walk that can be made is the one that is made. -/
theorem walk_of_walks (h : Walks t k l cs r) : walk t k l cs = some r := by
  induction h with
  | @here k l => cases k <;> rfl
  | @up k l r cs hdir _ ih => cases k <;> simpa [walk, walkWith, hdir] using ih
  | @plain k l r n cs hdir hnode _ ih =>
    rcases hnode with hnode | hnode <;> cases k <;> simpa [walk, walkWith, hdir, hnode] using ih
  | @link k l r n cs target hdir hnode _ ih => simpa [walk, walkWith, hdir, hnode] using ih

/-- The components between two links, for the ways behind the next link. -/
theorem walks_of_walkWith {jump : Location Name → List (Component Name) → Option (Location Name)}
    (hjump : ∀ (l : Location Name) (n : Name) (target : Target Name) (cs : List (Component Name)),
      isDir t l = true → t (n :: l) = some (.link target) →
      jump (if target.absolute then [] else l) (target.components ++ cs) = some r →
        Walks t k l (.name n :: cs) r)
    (h : walkWith t jump l cs = some r) : Walks t k l cs r := by
  induction cs generalizing l with
  | nil =>
    obtain rfl : l = r := Option.some.inj h
    exact .here
  | cons c cs ih =>
    cases c with
    | up =>
      rw [walkWith] at h
      split at h
      next hdir => exact .up hdir (ih h)
      · cases h
    | name n =>
      rw [walkWith] at h
      split at h
      next hdir =>
        cases hnode : t (n :: l) with
        | none => rw [hnode] at h; cases h
        | some node =>
          rw [hnode] at h
          cases node with
          | file => exact .plain hdir (.inl hnode) (ih h)
          | directory => exact .plain hdir (.inr hnode) (ih h)
          | link target => exact hjump l n target cs hdir hnode h
      · cases h

/-- **A walk succeeds along its ways only.** -/
theorem walk_eq_some_iff : walk t k l cs = some r ↔ Walks t k l cs r := by
  refine ⟨fun h => ?_, walk_of_walks⟩
  -- on the number of links that are left
  induction k generalizing l cs with
  | zero =>
    refine walks_of_walkWith (fun _ _ _ _ _ _ hnone => ?_) h
    cases hnone
  | succ k ih => exact walks_of_walkWith (fun _ _ _ _ hdir hnode hrest => .link hdir hnode (ih hrest)) h

/-- Every entry of the one tree is one of the other. -/
def Sub (t t' : Tree Name) : Prop :=
  ∀ l node, t l = some node → t' l = some node

/-- Nothing has gone. -/
theorem Sub.refl (t : Tree Name) : Sub t t :=
  fun _ _ h => h

/-- The root is a directory, and so is what the tree calls one. -/
theorem isDir_iff : isDir t l = true ↔ l = [] ∨ t l = some .directory := by
  cases l with
  | nil => simp [isDir]
  | cons n l =>
    cases hnode : t (n :: l) with
    | none => simp [isDir, hnode]
    | some node => cases node <;> simp [isDir, hnode]

/-- A directory is one in a larger tree. -/
theorem Sub.isDir (h : Sub t t') (hl : FileSystem.isDir t l = true) :
    FileSystem.isDir t' l = true :=
  isDir_iff.mpr ((isDir_iff.mp hl).imp_right (h l _))

/-- **More entries and more links** lead to the same place, where there is one. -/
theorem Walks.mono (hsub : Sub t t') (h : Walks t k l cs r) {k' : Nat} (hk : k ≤ k') :
    Walks t' k' l cs r := by
  induction h generalizing k' with
  | here => exact .here
  | up hdir _ ih => exact .up (hsub.isDir hdir) (ih hk)
  | plain hdir hnode _ ih =>
    exact .plain (hsub.isDir hdir) (hnode.imp (hsub _ _) (hsub _ _)) (ih hk)
  | link hdir hnode _ ih =>
    obtain ⟨j, rfl⟩ : ∃ j, k' = j + 1 := ⟨k' - 1, by omega⟩
    exact .link (hsub.isDir hdir) (hsub _ _ hnode) (ih (by omega))

/-- A walk passes through the place to which its first part leads. -/
theorem Walks.exists_of_append (h : Walks t k l (cs ++ ds) r) :
    ∃ m j, j ≤ k ∧ Walks t k l cs m ∧ Walks t j m ds r := by
  obtain ⟨xs, hxs⟩ : ∃ xs, xs = cs ++ ds := ⟨_, rfl⟩
  rw [← hxs] at h
  induction h generalizing cs with
  | @here k l =>
    obtain ⟨rfl, rfl⟩ := List.append_eq_nil_iff.mp hxs.symm
    exact ⟨l, k, Nat.le_refl k, .here, .here⟩
  | @up k l r xs hdir hrest ih =>
    cases cs with
    | nil => exact ⟨l, k, Nat.le_refl k, .here, by rw [List.nil_append] at hxs; exact hxs ▸ .up hdir hrest⟩
    | cons c cs =>
      obtain ⟨rfl, rfl⟩ := List.cons_eq_cons.mp hxs
      obtain ⟨m, j, hj, hm, hr⟩ := ih rfl
      exact ⟨m, j, hj, .up hdir hm, hr⟩
  | @plain k l r n xs hdir hnode hrest ih =>
    cases cs with
    | nil => exact ⟨l, k, Nat.le_refl k, .here, by rw [List.nil_append] at hxs; exact hxs ▸ .plain hdir hnode hrest⟩
    | cons c cs =>
      obtain ⟨rfl, rfl⟩ := List.cons_eq_cons.mp hxs
      obtain ⟨m, j, hj, hm, hr⟩ := ih rfl
      exact ⟨m, j, hj, .plain hdir hnode hm, hr⟩
  -- the components of a link come before the rest, so the first part grows by them
  | @link k l r n xs target hdir hnode hrest ih =>
    cases cs with
    | nil =>
      exact ⟨l, k + 1, Nat.le_refl _, .here, by rw [List.nil_append] at hxs; exact hxs ▸ .link hdir hnode hrest⟩
    | cons c cs =>
      obtain ⟨rfl, rfl⟩ := List.cons_eq_cons.mp hxs
      obtain ⟨m, j, hj, hm, hr⟩ := ih (List.append_assoc _ _ _).symm
      exact ⟨m, j, Nat.le_succ_of_le hj, .link hdir hnode hm, hr⟩

/-- A walk goes on from where it has come to, if no link is needed for that. -/
theorem Walks.append {m : Location Name} (h : Walks t k l cs m) (hrest : ∀ j, Walks t j m ds r) :
    Walks t k l (cs ++ ds) r := by
  induction h with
  | here => exact hrest _
  | up hdir _ ih => exact .up hdir (ih hrest)
  | plain hdir hnode _ ih => exact .plain hdir hnode (ih hrest)
  | link hdir hnode _ ih => exact .link hdir hnode (List.append_assoc _ _ _ ▸ ih hrest)

end Walks

/-! ## Paths -/

/-- An absolute path without `..`, its last name first. -/
abbrev Path (Name : Type) := List Name

/-- The links that a system follows on one path. -/
def maxLinks : Nat := 40

/-- The location of what a path names, through all links. -/
def resolve (t : Tree Name) (p : Path Name) : Option (Location Name) :=
  walk t maxLinks [] (p.reverse.map .name)

section Paths

variable {t t' : Tree Name} {p : Path Name} {d l : Location Name} {n : Name}

/-- What resolves goes on resolving in a larger tree. -/
theorem resolve_mono (hsub : Sub t t') (h : resolve t p = some l) : resolve t' p = some l :=
  walk_of_walks ((walk_eq_some_iff.mp h).mono hsub (Nat.le_refl _))

/-- The last name of a path is walked last. -/
theorem resolve_cons (t : Tree Name) (n : Name) (p : Path Name) :
    resolve t (n :: p) = walk t maxLinks [] (p.reverse.map .name ++ [.name n]) := by
  rw [resolve, List.reverse_cons, List.map_append]
  rfl

/-- What a path names is in the directory that its parent names, or a link there leads to it. -/
theorem exists_resolve_of_cons (h : resolve t (n :: p) = some l) :
    ∃ d, resolve t p = some d ∧ isDir t d = true ∧
      (l = n :: d ∨ ∃ target, t (n :: d) = some (.link target) ∧
        walk t maxLinks d [.name n] = some l) := by
  rw [resolve_cons, walk_eq_some_iff] at h
  obtain ⟨d, j, hj, hd, hlast⟩ := h.exists_of_append
  have hall : walk t maxLinks d [.name n] = some l := walk_of_walks (hlast.mono (Sub.refl t) hj)
  refine ⟨d, walk_of_walks hd, ?_⟩
  cases hlast with
  | plain hdir _ hrest =>
    cases hrest
    exact ⟨hdir, .inl rfl⟩
  | link hdir hnode _ => exact ⟨hdir, .inr ⟨_, hnode, hall⟩⟩

/-- A file or a directory is named by its path. -/
theorem resolve_cons_of_plain (hd : resolve t p = some d) (hdir : isDir t d = true)
    (hnode : t (n :: d) = some .file ∨ t (n :: d) = some .directory) :
    resolve t (n :: p) = some (n :: d) := by
  rw [resolve_cons, walk_eq_some_iff]
  exact (walk_eq_some_iff.mp hd).append fun j => .plain hdir hnode .here

end Paths

/-! ## File systems -/

/-- Finitely many entries, one at a location, and each of them in a directory. -/
structure Files (Name : Type) where
  entries : List (Location Name × Node Name)
  nodup : (entries.map Prod.fst).Nodup
  parents : ∀ e ∈ entries, e.1 ≠ [] ∧ (e.1.tail = [] ∨ (e.1.tail, Node.directory) ∈ entries)

namespace Files

variable [DecidableEq Name]

/-- What is at a location. -/
def tree (fs : Files Name) : Tree Name := fun l =>
  (fs.entries.find? fun e => e.1 = l).map Prod.snd

/-- The names in a directory. -/
def names (fs : Files Name) (d : Location Name) : List Name :=
  fs.entries.filterMap fun e =>
    match e.1 with
    | n :: d' => if d' = d then some n else none
    | [] => none

section Entries

variable {fs : Files Name} {l d : Location Name} {node : Node Name} {n : Name}

/-- The tree is that of the entries, each of which has a location of its own. -/
theorem tree_eq_some_iff : fs.tree l = some node ↔ (l, node) ∈ fs.entries := by
  have hnodup := fs.nodup
  unfold tree
  constructor
  · intro h
    obtain ⟨e, he, rfl⟩ := Option.map_eq_some_iff.mp h
    have hl : e.1 = l := by simpa using List.find?_some he
    subst hl
    exact List.mem_of_find?_eq_some he
  · intro h
    cases hfind : fs.entries.find? fun e => e.1 = l with
    | none => exact absurd h (fun hmem => by simpa using List.find?_eq_none.mp hfind _ hmem)
    | some e =>
      -- the entry that is found has the same location, so it is the same entry
      have hl : e.1 = l := by simpa using List.find?_some hfind
      have hsame : e = (l, node) :=
        List.inj_on_of_nodup_map hnodup (List.mem_of_find?_eq_some hfind) h hl
      rw [hsame]
      rfl

/-- The names in a directory are those of its entries. -/
theorem mem_names_iff : n ∈ fs.names d ↔ ∃ node, fs.tree (n :: d) = some node := by
  simp only [tree_eq_some_iff, names, List.mem_filterMap]
  constructor
  · rintro ⟨⟨l, node⟩, hmem, hname⟩
    cases l with
    | nil => cases hname
    | cons m d' =>
      simp only at hname
      split at hname
      -- the entry is in this directory
      next hd =>
        cases hname
        exact ⟨node, hd ▸ hmem⟩
      · cases hname
  · rintro ⟨node, hmem⟩
    exact ⟨_, hmem, by simp⟩

/-- An entry is in a directory. -/
theorem isDir_of_tree (h : fs.tree (n :: d) = some node) : isDir fs.tree d = true := by
  have hd := (fs.parents _ (tree_eq_some_iff.mp h)).2
  exact isDir_iff.mpr (hd.imp_right tree_eq_some_iff.mpr)

/-- Fewer entries are fewer names in a directory. -/
theorem names_subset {fs' : Files Name} (hsub : Sub fs'.tree fs.tree) : fs'.names d ⊆ fs.names d := by
  intro n hn
  obtain ⟨node, hnode⟩ := mem_names_iff.mp hn
  exact mem_names_iff.mpr ⟨node, hsub _ _ hnode⟩

end Entries

/-- The file system without an entry that has none below it. -/
def remove (fs : Files Name) (l : Location Name) (hempty : fs.names l = []) : Files Name where
  entries := fs.entries.filter fun e => e.1 ≠ l
  nodup := fs.nodup.sublist (List.filter_sublist.map _)
  parents := by
    rintro ⟨l', node⟩ h
    have hmem := (List.mem_filter.mp h).1
    obtain ⟨hne, hd⟩ := fs.parents _ hmem
    cases l' with
    | nil => exact absurd rfl hne
    | cons n d =>
      refine ⟨hne, hd.imp_right fun hd => List.mem_filter.mpr ⟨hd, ?_⟩⟩
      -- the directory of an entry that stays is not the one that goes
      have hstays : d ≠ l := by
        rintro rfl
        have hname := mem_names_iff.mpr ⟨node, tree_eq_some_iff.mpr hmem⟩
        rw [hempty] at hname
        cases hname
      exact decide_eq_true hstays

/-- The file system with one more entry, in a directory that has none of that name. -/
def create (fs : Files Name) (n : Name) (d : Location Name) (node : Node Name)
    (hdir : isDir fs.tree d = true) (habsent : fs.tree (n :: d) = none) : Files Name where
  entries := fs.entries ++ [(n :: d, node)]
  nodup := by
    rw [List.map_append, List.nodup_append]
    refine ⟨fs.nodup, List.nodup_singleton _, fun l hl m hm => ?_⟩
    rw [List.mem_singleton.mp hm]
    -- an entry at the new location would be of that name
    rintro rfl
    obtain ⟨⟨_, node'⟩, hmem, rfl⟩ := List.mem_map.mp hl
    exact absurd (habsent.symm.trans (tree_eq_some_iff.mpr hmem)) nofun
  parents e h := by
    rcases List.mem_append.mp h with h | h
    · obtain ⟨hne, hd⟩ := fs.parents e h
      exact ⟨hne, hd.imp_right (List.mem_append_left _)⟩
    · rw [List.mem_singleton.mp h]
      refine ⟨List.cons_ne_nil n d, (isDir_iff.mp hdir).imp_right fun hd => ?_⟩
      exact List.mem_append_left _ (tree_eq_some_iff.mp hd)

section Changes

variable {fs : Files Name} {l l' d : Location Name} {node : Node Name} {n : Name}

/-- One location less. -/
theorem tree_remove (hempty : fs.names l = []) :
    (fs.remove l hempty).tree l' = if l' = l then none else fs.tree l' := by
  -- entries are filtered by their location
  have hiff : ∀ node, (fs.remove l hempty).tree l' = some node ↔
      l' ≠ l ∧ fs.tree l' = some node := by
    intro node
    rw [tree_eq_some_iff, tree_eq_some_iff, remove, List.mem_filter, and_comm]
    simp
  split
  next h => exact Option.eq_none_iff_forall_ne_some.mpr fun node hnode => ((hiff node).mp hnode).1 h
  next h =>
    apply Option.ext
    intro node
    rw [hiff]
    exact and_iff_right h

/-- One location more. -/
theorem tree_create (hdir : isDir fs.tree d = true) (habsent : fs.tree (n :: d) = none) :
    (fs.create n d node hdir habsent).tree l' =
      if l' = n :: d then some node else fs.tree l' := by
  have hiff : ∀ node', (fs.create n d node hdir habsent).tree l' = some node' ↔
      fs.tree l' = some node' ∨ l' = n :: d ∧ node' = node := by
    intro node'
    rw [tree_eq_some_iff, tree_eq_some_iff, create, List.mem_append, List.mem_singleton,
      Prod.mk.injEq]
  apply Option.ext
  intro node'
  rw [hiff]
  split
  next h =>
    subst h
    simp [habsent, eq_comm]
  next h => simp [h]

/-- What is removed is missing, and nothing else. -/
theorem sub_remove (hempty : fs.names l = []) : Sub (fs.remove l hempty).tree fs.tree := by
  intro l' node h
  rw [tree_remove] at h
  split at h
  · cases h
  · exact h

/-- What is made is new, and nothing is lost. -/
theorem sub_create (hdir : isDir fs.tree d = true) (habsent : fs.tree (n :: d) = none) :
    Sub fs.tree (fs.create n d node hdir habsent).tree := by
  intro l' node' h
  rw [tree_create]
  split
  next hl => exact absurd ((hl ▸ habsent).symm.trans h) nofun
  · exact h

end Changes

/-! ### `java.io.File` -/

/-- `exists()` -/
def «exists» (fs : Files Name) (p : Path Name) : Bool :=
  (resolve fs.tree p).isSome

/-- `isDirectory()` -/
def isDirectory (fs : Files Name) (p : Path Name) : Bool :=
  match resolve fs.tree p with
  | some l => isDir fs.tree l
  | none => false

/-- `isFile()` -/
def isFile (fs : Files Name) (p : Path Name) : Bool :=
  match resolve fs.tree p with
  | some l => !isDir fs.tree l
  | none => false

/-- Whether a path ends in a link. -/
def isLink (fs : Files Name) : Path Name → Bool
  | [] => false
  | n :: parent =>
    match resolve fs.tree parent with
    | none => false
    | some d =>
      match fs.tree (n :: d) with
      | some (.link _) => true
      | _ => false

/-- `listFiles()`; `null` for what is no directory, or cannot be read. -/
def listFiles (fs : Files Name) (unreadable : Location Name → Bool) (p : Path Name) :
    Option (List (Path Name)) :=
  match resolve fs.tree p with
  | some l =>
    if isDir fs.tree l && !unreadable l then some ((fs.names l).map fun n => n :: p) else none
  | none => none

/-- `delete()`: the entry itself, which need not lead anywhere, unless it is a directory that is
    not empty, or one of those that cannot be deleted. -/
def delete (fs : Files Name) (undeletable : Location Name → Bool) (p : Path Name) :
    Files Name × Bool :=
  match p with
  | [] => (fs, false)
  | n :: parent =>
    match resolve fs.tree parent with
    | none => (fs, false)
    | some d =>
      if (fs.tree (n :: d)).isNone || undeletable (n :: d) then (fs, false)
      else if hempty : fs.names (n :: d) = [] then (fs.remove (n :: d) hempty, true)
      else (fs, false)

/-- `canonicalPath`: the links of what is there are followed, and what is not there is added as it
    is written. -/
def canonicalPath (fs : Files Name) : Path Name → Location Name
  | [] => []
  | n :: p =>
    match resolve fs.tree (n :: p) with
    | some l => l
    | none => n :: fs.canonicalPath p

section Operations

variable {fs : Files Name} {p : Path Name} {d l : Location Name} {n : Name}
  {undeletable unreadable : Location Name → Bool}

/-- `exists()` follows links. -/
theorem exists_iff : fs.exists p = true ↔ ∃ l, resolve fs.tree p = some l :=
  Option.isSome_iff_exists

/-- A link is one by what the tree has at its own location. -/
theorem isLink_of_tree {target : Target Name} (hd : resolve fs.tree p = some d)
    (hlink : fs.tree (n :: d) = some (.link target)) : fs.isLink (n :: p) = true := by
  simp [isLink, hd, hlink]

/-- An entry that does not exist, by the test that follows links, is a link. -/
theorem exists_or_isLink (hd : resolve fs.tree p = some d) (hn : n ∈ fs.names d) :
    fs.exists (n :: p) = true ∨ fs.isLink (n :: p) = true := by
  obtain ⟨node, hnode⟩ := mem_names_iff.mp hn
  have hdir : isDir fs.tree d = true := isDir_of_tree hnode
  cases node with
  | file => exact .inl (exists_iff.mpr ⟨_, resolve_cons_of_plain hd hdir (.inl hnode)⟩)
  | directory => exact .inl (exists_iff.mpr ⟨_, resolve_cons_of_plain hd hdir (.inr hnode)⟩)
  | link target => exact .inr (isLink_of_tree hd hnode)

/-- **What a deletion does**: nothing, or it takes one entry away. -/
theorem delete_cases (fs : Files Name) (undeletable : Location Name → Bool) (p : Path Name) :
    (fs.delete undeletable p).1 = fs ∨
      ∃ n parent d, ∃ hempty : fs.names (n :: d) = [], p = n :: parent ∧
        resolve fs.tree parent = some d ∧ undeletable (n :: d) = false ∧
        (fs.delete undeletable p).1 = fs.remove (n :: d) hempty := by
  fun_cases delete fs undeletable p with
  | case1 => exact .inl rfl
  | case2 => exact .inl rfl
  | case3 => exact .inl rfl
  | case4 n parent d hd hthere hempty =>
    have hdeletable : undeletable (n :: d) = false := by
      simp only [Bool.or_eq_true, not_or, Bool.not_eq_true] at hthere
      exact hthere.2
    exact .inr ⟨n, parent, d, hempty, rfl, hd, hdeletable, rfl⟩
  | case5 => exact .inl rfl

/-- `delete` makes nothing. -/
theorem sub_delete : Sub (fs.delete undeletable p).1.tree fs.tree := by
  obtain hsame | ⟨n, parent, d, hempty, -, -, -, hremoved⟩ := delete_cases fs undeletable p
  · rw [hsame]
    exact Sub.refl fs.tree
  · rw [hremoved]
    exact sub_remove hempty

/-- The paths that a directory lists, and what they stand for. -/
theorem listFiles_eq_some {paths : List (Path Name)} (h : fs.listFiles unreadable p = some paths) :
    ∃ d, resolve fs.tree p = some d ∧ isDir fs.tree d = true ∧
      paths = (fs.names d).map fun n => n :: p := by
  unfold listFiles at h
  cases hd : resolve fs.tree p with
  | none => rw [hd] at h; cases h
  | some d =>
    rw [hd] at h
    simp only [Bool.and_eq_true] at h
    split at h
    next hdir => exact ⟨d, rfl, hdir.1, (Option.some.inj h).symm⟩
    · cases h

end Operations

end Files

end DarkMed.Lib.FileSystem
