import DeckDump.Compound.Directory
import Mathlib.Logic.Function.Basic
import Mathlib.Logic.Relation

/-!
# Paths and reachability

The links of a directory are a graph that may have any shape: cycles, shared entries, links to
the root or behind the end of the table. An entry gets a path iff the root leads to it:

* `Link`, `Reachable`: the links that count, and the entries that the root leads to;
* `Holds`, `Inside`: the entries of a storage, and the names on the way to an entry;
* `Assigning`: what holds between two steps of `assignPaths`, for the paths and the pending links;
* `Assigning.pass`, `Assigning.follow`: what one step keeps;
* `assigning_assignPaths`: so it holds at the end, with no link pending;
* `resolvePaths_reachable`: which entries get a path, and which path.
-/

namespace DeckDump.Compound

/-- The three links that an entry has. -/
inductive LinkKind
  | left
  | right
  | child
deriving DecidableEq

namespace DirectoryEntry

/-- The link of a kind. -/
def link (e : DirectoryEntry) : LinkKind → EntryId
  | .left => e.left
  | .right => e.right
  | .child => e.child

/-- Whether a link of entry number `i` counts: the root has no siblings, and besides the root only storages
have entries below them. -/
def HasLink (i : Nat) (e : DirectoryEntry) : LinkKind → Prop
  | .left | .right => 0 < i
  | .child => i = 0 ∨ e.type.hasChildren = true

end DirectoryEntry

namespace Directory

open Relation (ReflTransGen)

/-- Whether a link leads to entry number `i`: it leads nowhere if it is marked so, if it names the root, or if
it names no entry of the table. -/
def LeadsTo (entries : Array DirectoryEntry) (id : EntryId) (i : Nat) : Prop :=
  id ≠ EntryId.nowhere ∧ id.toNat = i ∧ 0 < i ∧ i < entries.size

/-- Whether entry number `i` has a link of a kind that counts and leads to entry number `j`. -/
def Link (entries : Array DirectoryEntry) (i : Nat) (kind : LinkKind) (j : Nat) : Prop :=
  ∃ e, entries[i]? = some e ∧ e.HasLink i kind ∧ LeadsTo entries (e.link kind) j

/-- Whether links lead from the root to entry number `i`. -/
def Reachable (entries : Array DirectoryEntry) (i : Nat) : Prop :=
  ReflTransGen (fun i j => ∃ kind, Link entries i kind j) 0 i

/-- Whether a link to a sibling leads from entry number `i` to entry number `j`. -/
def Sibling (entries : Array DirectoryEntry) (i j : Nat) : Prop := Link entries i .left j ∨ Link entries i .right j

/-- Whether entry number `i` is the child of storage number `s`, or siblings lead there from its child. -/
def Holds (entries : Array DirectoryEntry) (s i : Nat) : Prop :=
  ∃ first, Link entries s .child first ∧ ReflTransGen (Sibling entries) first i

/-- The names on a way from the root to entry number `i`, down from storage to storage. -/
inductive Inside (entries : Array DirectoryEntry) : Nat → List String → Prop
  | root : Inside entries 0 []
  | entry {s i : Nat} {names : List String} {e : DirectoryEntry} : Inside entries s names → Holds entries s i →
      entries[i]? = some e → Inside entries i (names ++ [e.name])

/-- Whether no entry is the target of two links of entries that the root leads to. -/
def Untangled (entries : Array DirectoryEntry) : Prop :=
  ∀ i i' kind kind' j, Reachable entries i → Reachable entries i' → Link entries i kind j → Link entries i' kind' j →
    i = i' ∧ kind = kind'

/-- The path of entry number `i`. -/
def pathAt (entries : Array DirectoryEntry) (i : Nat) : Option Path := entries[i]?.bind (·.path)

/-! ## The graph of links -/

section Graph

variable {entries : Array DirectoryEntry}

theorem Link.pos {i j : Nat} {kind : LinkKind} (h : Link entries i kind j) : 0 < j := by
  obtain ⟨e, -, -, -, -, pos, -⟩ := h
  exact pos

theorem Sibling.exists_link {i j : Nat} (h : Sibling entries i j) : ∃ kind ≠ .child, Link entries i kind j := by
  obtain left | right := h
  · exact ⟨.left, by simp, left⟩
  · exact ⟨.right, by simp, right⟩

theorem Holds.sibling {s i j : Nat} (h : Holds entries s i) (link : Sibling entries i j) : Holds entries s j := by
  obtain ⟨first, child, siblings⟩ := h
  exact ⟨first, child, siblings.tail link⟩

theorem Holds.pos {s i : Nat} (h : Holds entries s i) : 0 < i := by
  obtain ⟨first, child, siblings⟩ := h
  cases siblings with
  | refl => exact child.pos
  | tail _ link => exact link.elim Link.pos Link.pos

/-- What an entry that the root leads to holds, the root leads to. -/
theorem Holds.reachable {s i : Nat} (h : Holds entries s i) (from_root : Reachable entries s) :
    Reachable entries i := by
  obtain ⟨first, child, siblings⟩ := h
  induction siblings with
  | refl => exact from_root.tail ⟨.child, child⟩
  | tail _ link ih =>
    obtain ⟨kind, -, link⟩ := Sibling.exists_link link
    exact ih.tail ⟨kind, link⟩

theorem Inside.reachable {i : Nat} {names : List String} (h : Inside entries i names) : Reachable entries i := by
  induction h with
  | root => exact .refl
  | entry _ holds _ ih => exact holds.reachable ih

theorem ofNames_append (names : List String) (name : String) :
    Path.ofNames (names ++ [name]) = Path.join (Path.ofNames names) name := by
  simp [Path.ofNames]

/-- In an untangled directory no entry is held by two storages. -/
theorem Holds.unique (untangled : Untangled entries) {s s' i : Nat} (h : Holds entries s i) (h' : Holds entries s' i)
    (from_root : Reachable entries s) (from_root' : Reachable entries s') : s = s' := by
  obtain ⟨first, child, siblings⟩ := h
  induction siblings with
  | refl =>
    -- the last link to the entry is a child link, so it is one on the other way too
    obtain ⟨first', child', siblings'⟩ := h'
    cases siblings' with
    | refl => exact (untangled _ _ _ _ _ from_root from_root' child child').1
    | tail before' link' =>
      have held' : Reachable entries _ := Holds.reachable ⟨first', child', before'⟩ from_root'
      obtain ⟨kind', other, link'⟩ := Sibling.exists_link link'
      exact absurd (untangled _ _ _ _ _ from_root held' child link').2.symm other
  | tail before link ih =>
    have held : Reachable entries _ := Holds.reachable ⟨first, child, before⟩ from_root
    obtain ⟨kind, other, link⟩ := Sibling.exists_link link
    obtain ⟨first', child', siblings'⟩ := h'
    cases siblings' with
    | refl => exact absurd (untangled _ _ _ _ _ held from_root' link child').2 other
    | tail before' link' =>
      have held' : Reachable entries _ := Holds.reachable ⟨first', child', before'⟩ from_root'
      obtain ⟨kind', -, link'⟩ := Sibling.exists_link link'
      obtain rfl := (untangled _ _ _ _ _ held held' link link').1
      exact ih ⟨first', child', before'⟩

/-- In an untangled directory one way leads to each entry. -/
theorem Inside.unique (untangled : Untangled entries) {i : Nat} {names names' : List String}
    (h : Inside entries i names) (h' : Inside entries i names') : names = names' := by
  induction h generalizing names' with
  | root =>
    cases h' with
    | root => rfl
    | entry _ holds _ => exact absurd holds.pos (Nat.lt_irrefl 0)
  | entry inside holds found ih =>
    cases h' with
    | root => exact absurd holds.pos (Nat.lt_irrefl 0)
    | entry inside' holds' found' =>
      obtain rfl := holds.unique untangled holds' inside.reachable inside'.reachable
      obtain rfl := Option.some.inj (found.symm.trans found')
      rw [ih inside']

end Graph

/-! ## Assigning paths -/

/-- What holds between two steps of assigning paths: the paths that entries have, and the links pending. -/
structure Assigning (entries : Array DirectoryEntry) (paths : Nat → Option Path) (pending : List (EntryId × Path)) :
    Prop where
  root : paths 0 = some Path.root
  /-- An entry with a path is held by one with a path, and named inside it. -/
  placed : ∀ i p, 0 < i → paths i = some p → ∃ s parent names e, paths s = some parent ∧ Inside entries s names ∧
    parent = Path.ofNames names ∧ Holds entries s i ∧ entries[i]? = some e ∧ p = Path.join parent e.name
  /-- A pending link leads to an entry of the storage whose path is pending with it. -/
  linked : ∀ x ∈ pending, ∃ s, paths s = some x.2 ∧ ∀ j, LeadsTo entries x.1 j → Holds entries s j
  /-- Where an entry with a path leads to, there is a path, or a link pending. -/
  closed : ∀ i kind j, paths i ≠ none → Link entries i kind j →
    paths j ≠ none ∨ ∃ x ∈ pending, LeadsTo entries x.1 j

theorem mem_links {e : DirectoryEntry} {parent path : Path} {x : EntryId × Path} :
    x ∈ e.links parent path ↔
      (e.type.hasChildren = true ∧ x = (e.child, path)) ∨ x = (e.right, parent) ∨ x = (e.left, parent) := by
  rw [DirectoryEntry.links, List.mem_append]
  by_cases owns : e.type.hasChildren = true <;> simp [owns]

/-- The links that an entry adds lead to entries that it holds, or to more entries of its own storage. -/
theorem holds_of_mem_links {entries : Array DirectoryEntry} {s i : Nat} {e : DirectoryEntry} {parent path : Path}
    {x : EntryId × Path} (mem : x ∈ e.links parent path) (found : entries[i]? = some e) (held : Holds entries s i) :
    (x.2 = path ∧ ∀ j, LeadsTo entries x.1 j → Holds entries i j) ∨
      (x.2 = parent ∧ ∀ j, LeadsTo entries x.1 j → Holds entries s j) := by
  obtain ⟨owns, rfl⟩ | rfl | rfl := mem_links.1 mem
  · exact .inl ⟨rfl, fun j leads => ⟨j, ⟨e, found, .inr owns, leads⟩, .refl⟩⟩
  · exact .inr ⟨rfl, fun j leads => held.sibling (.inr ⟨e, found, held.pos, leads⟩)⟩
  · exact .inr ⟨rfl, fun j leads => held.sibling (.inl ⟨e, found, held.pos, leads⟩)⟩

/-- An entry other than the root adds all its links that count. -/
theorem exists_mem_links {i : Nat} {e : DirectoryEntry} {kind : LinkKind} (has : e.HasLink i kind) (pos : 0 < i)
    (parent path : Path) : ∃ x ∈ e.links parent path, x.1 = e.link kind := by
  cases kind with
  | left => exact ⟨(e.left, parent), mem_links.2 (.inr (.inr rfl)), rfl⟩
  | right => exact ⟨(e.right, parent), mem_links.2 (.inr (.inl rfl)), rfl⟩
  | child => exact ⟨(e.child, path), mem_links.2 (.inl ⟨has.resolve_left (Nat.ne_of_gt pos), rfl⟩), rfl⟩

/-- Paths that are there stay when an entry without one gets one. -/
theorem update_of_pathless {paths : Nat → Option Path} {i j : Nat} {p : Path} (pathless : paths i = none)
    (path : Path) (old : paths j = some p) : Function.update paths i (some path) j = some p := by
  rw [Function.update_of_ne, old]
  rintro rfl
  cases pathless.symm.trans old

namespace Assigning

variable {entries : Array DirectoryEntry} {paths : Nat → Option Path} {pending : List (EntryId × Path)}

/-- The path of an entry is made of the names on a way to it. -/
theorem inside (h : Assigning entries paths pending) {i : Nat} {p : Path} (path : paths i = some p) :
    ∃ names, Inside entries i names ∧ p = Path.ofNames names := by
  by_cases pos : 0 < i
  · obtain ⟨s, parent, names, e, -, within, rfl, holds, found, rfl⟩ := h.placed i p pos path
    exact ⟨names ++ [e.name], within.entry holds found, (ofNames_append names e.name).symm⟩
  · obtain rfl := Nat.eq_zero_of_not_pos pos
    exact ⟨[], .root, Option.some.inj (path.symm.trans h.root)⟩

/-- A link to no entry, or to an entry that has a path, is done with. -/
theorem pass {id : EntryId} {parent : Path} (h : Assigning entries paths ((id, parent) :: pending))
    (done : ∀ j, LeadsTo entries id j → paths j ≠ none) : Assigning entries paths pending where
  root := h.root
  placed := h.placed
  linked := fun x hx => h.linked x (List.mem_cons_of_mem _ hx)
  closed := by
    intro i kind j path link
    obtain visited | ⟨x, hx, leads⟩ := h.closed i kind j path link
    · exact .inl visited
    obtain rfl | hx := List.mem_cons.1 hx
    · exact .inl (done j leads)
    · exact .inr ⟨x, hx, leads⟩

/-- A link to an entry without a path gives it one and adds its own links. -/
theorem follow {id : EntryId} {parent path : Path} (h : Assigning entries paths ((id, parent) :: pending)) {i : Nat}
    {e : DirectoryEntry} (leads : LeadsTo entries id i) (found : entries[i]? = some e) (pathless : paths i = none)
    (joined : path = Path.join parent e.name) :
    Assigning entries (Function.update paths i (some path)) (e.links parent path ++ pending) := by
  obtain ⟨s, above, holds⟩ := h.linked _ List.mem_cons_self
  have held := holds i leads
  have stays {j : Nat} {p : Path} (old : paths j = some p) := update_of_pathless pathless path old
  constructor
  case root => exact stays h.root
  case placed =>
    intro j p pos new
    by_cases here : j = i
    · subst here
      rw [Function.update_self] at new
      obtain ⟨names, within, named⟩ := h.inside above
      exact ⟨s, parent, names, e, stays above, within, named, held, found, (Option.some.inj new).symm.trans joined⟩
    · rw [Function.update_of_ne here] at new
      obtain ⟨t, outer, names, f, known, rest⟩ := h.placed j p pos new
      exact ⟨t, outer, names, f, stays known, rest⟩
  case linked =>
    intro x hx
    obtain own | old := List.mem_append.1 hx
    · obtain ⟨eq, on⟩ | ⟨eq, on⟩ := holds_of_mem_links own found held <;> rw [eq]
      · exact ⟨i, Function.update_self .., on⟩
      · exact ⟨s, stays above, on⟩
    · obtain ⟨t, known, on⟩ := h.linked x (List.mem_cons_of_mem _ old)
      exact ⟨t, stays known, on⟩
  case closed =>
    intro k kind j visited link
    by_cases here : k = i
    · -- the links of the entry itself are now pending
      subst here
      obtain ⟨e', found', has, on⟩ := link
      obtain rfl := Option.some.inj (found.symm.trans found')
      obtain ⟨x, added, eq⟩ := exists_mem_links has held.pos parent path
      exact .inr ⟨x, List.mem_append_left _ added, eq ▸ on⟩
    · rw [Function.update_of_ne here] at visited
      obtain known | ⟨x, hx, on⟩ := h.closed k kind j visited link
      · obtain ⟨p, known⟩ := Option.ne_none_iff_exists'.1 known
        exact .inl (by simp [stays known])
      obtain rfl | hx := List.mem_cons.1 hx
      · obtain rfl : j = i := on.2.1.symm.trans leads.2.1
        exact .inl (by simp)
      · exact .inr ⟨x, List.mem_append_right _ hx, on⟩

/-- With no link pending, exactly the entries that the root leads to have a path. -/
theorem isSome_iff (h : Assigning entries paths []) (i : Nat) : (paths i).isSome = true ↔ Reachable entries i := by
  constructor
  · intro path
    obtain ⟨p, path⟩ := Option.isSome_iff_exists.1 path
    obtain ⟨names, within, -⟩ := h.inside path
    exact within.reachable
  · intro reachable
    induction reachable with
    | refl => simp [h.root]
    | tail _ link ih =>
      obtain ⟨kind, link⟩ := link
      obtain path | ⟨x, hx, -⟩ := h.closed _ kind _ (by simpa [Option.isSome_iff_ne_none] using ih) link
      · simpa [Option.isSome_iff_ne_none] using path
      · cases hx

end Assigning

/-- Whether directories differ in paths alone. -/
def SameButPaths (entries now : Array DirectoryEntry) : Prop :=
  ∀ i, now[i]? = entries[i]?.map fun e : DirectoryEntry => { e with path := pathAt now i }

namespace SameButPaths

variable {entries now : Array DirectoryEntry}

theorem size_eq (h : SameButPaths entries now) : now.size = entries.size := by
  have ends (i : Nat) : now.size ≤ i ↔ entries.size ≤ i := by
    rw [← Array.getElem?_eq_none_iff, ← Array.getElem?_eq_none_iff, h i, Option.map_eq_none_iff]
  exact Nat.le_antisymm ((ends _).2 (Nat.le_refl _)) ((ends _).1 (Nat.le_refl _))

theorem pathAt_set {i : Nat} (h : i < now.size) (path : Path) :
    pathAt (now.set i { now[i] with path := some path }) = Function.update (pathAt now) i (some path) := by
  funext j
  rw [pathAt, Array.getElem?_set]
  by_cases here : j = i
  · subst here
    simp
  · rw [if_neg (Ne.symm here), Function.update_of_ne here, pathAt]

/-- An entry comes from one that differs from it in its path alone. -/
theorem origin (h : SameButPaths entries now) {i : Nat} (inside : i < now.size) :
    ∃ e, entries[i]? = some e ∧ now[i] = { e with path := pathAt now i } := by
  have fields := h i
  rw [Array.getElem?_eq_getElem inside] at fields
  obtain ⟨e, found, eq⟩ := Option.map_eq_some_iff.1 fields.symm
  exact ⟨e, found, eq.symm⟩

theorem set (h : SameButPaths entries now) {i : Nat} (inside : i < now.size) (path : Path) :
    SameButPaths entries (now.set i { now[i] with path := some path }) := by
  intro j
  rw [Array.getElem?_set, pathAt_set]
  by_cases here : j = i
  · subst here
    obtain ⟨e, found, eq⟩ := h.origin inside
    simp [found, eq]
  · rw [if_neg (Ne.symm here), Function.update_of_ne here, h j]

end SameButPaths

/-- Assigning paths ends with no link pending, and changes nothing but paths. -/
theorem assigning_assignPaths {entries now : Array DirectoryEntry} {pending : List (EntryId × Path)}
    (same : SameButPaths entries now) (h : Assigning entries (pathAt now) pending) :
    SameButPaths entries (assignPaths now pending) ∧ Assigning entries (pathAt (assignPaths now pending)) [] := by
  fun_induction assignPaths now pending with
  | case1 now => exact ⟨same, h⟩
  | case2 now parent rest ih => exact ih same (h.pass fun j leads => absurd rfl leads.1)
  | case3 now id parent rest somewhere inside pathless entry path less ih =>
    have without : pathAt now id.toNat = none := by
      simpa [pathAt, DirectoryEntry.pathless, Array.getElem?_eq_getElem inside] using pathless
    have pos : 0 < id.toNat := by
      refine Nat.pos_of_ne_zero fun zero => ?_
      rw [zero, h.root] at without
      cases without
    have leads : LeadsTo entries id id.toNat := ⟨somewhere, rfl, pos, same.size_eq ▸ inside⟩
    obtain ⟨e, found, eq⟩ := same.origin inside
    have joined : path = Path.join parent e.name := congrArg (fun e => Path.join parent e.name) eq
    have links : entry.links parent path = e.links parent path := congrArg (fun e => e.links parent path) eq
    have followed := h.follow leads found without joined
    rw [← links, ← SameButPaths.pathAt_set inside] at followed
    exact ih (same.set inside path) followed
  | case4 now id parent rest somewhere inside visited ih =>
    refine ih same (h.pass fun j leads => ?_)
    obtain ⟨-, rfl, -⟩ := leads
    simpa [pathAt, DirectoryEntry.pathless, Array.getElem?_eq_getElem inside] using visited
  | case5 now id parent rest somewhere behind ih =>
    refine ih same (h.pass fun j leads => ?_)
    obtain ⟨-, rfl, -, within⟩ := leads
    exact absurd (same.size_eq ▸ within) behind

/-- Resolving paths starts with a path for the root alone, and with its child pending. -/
theorem assigning_start {entries : Array DirectoryEntry} (nonempty : 0 < entries.size)
    (pathless : ∀ i, pathAt entries i = none) :
    Assigning entries (Function.update (pathAt entries) 0 (some Path.root)) [(entries[0].child, Path.root)] where
  root := Function.update_self ..
  placed := by
    intro i p pos path
    rw [Function.update_of_ne (Nat.ne_of_gt pos), pathless] at path
    cases path
  linked := by
    intro x hx
    obtain rfl := List.mem_singleton.1 hx
    refine ⟨0, Function.update_self .., fun j leads => ⟨j, ⟨entries[0], ?_, .inl rfl, leads⟩, .refl⟩⟩
    exact Array.getElem?_eq_getElem nonempty
  closed := by
    intro i kind j path link
    by_cases root : i = 0
    · subst root
      obtain ⟨e, found, has, leads⟩ := link
      obtain rfl := Option.some.inj ((Array.getElem?_eq_getElem nonempty).symm.trans found)
      cases kind with
      | left | right => exact absurd has (Nat.lt_irrefl 0)
      | child => exact .inr ⟨_, List.mem_singleton_self _, leads⟩
    · rw [Function.update_of_ne root, pathless] at path
      exact absurd rfl path

/-- Resolving paths gives a path to the entries that the root leads to, and to no other; each is named inside
a storage that holds it. Where one way leads to each entry, its path is made of the names on that way. -/
theorem resolvePaths_reachable {entries : Array DirectoryEntry} (nonempty : 0 < entries.size)
    (pathless : ∀ e ∈ entries, e.path = none) :
    let resolved := resolvePaths entries
    SameButPaths entries resolved ∧ pathAt resolved 0 = some "/" ∧
    (∀ i, 0 < i → ((pathAt resolved i).isSome = true ↔ Reachable entries i)) ∧
    (∀ i p, 0 < i → pathAt resolved i = some p → ∃ s parent e, pathAt resolved s = some parent ∧
      Holds entries s i ∧ entries[i]? = some e ∧ p = Path.join parent e.name) ∧
    (Untangled entries → ∀ i, Reachable entries i → ∃ names, pathAt resolved i = some (Path.ofNames names) ∧
      ∀ names', Inside entries i names' ↔ names' = names) := by
  intro resolved
  have none_at (i : Nat) : pathAt entries i = none := by
    rw [pathAt]
    cases found : entries[i]? with
    | none => rfl
    | some e => exact pathless e (Array.mem_of_getElem? found)
  have same : SameButPaths entries entries := by
    intro i
    cases found : entries[i]? with
    | none => rfl
    | some e =>
      rw [Option.map_some, none_at, ← pathless e (Array.mem_of_getElem? found)]
  have start := assigning_start nonempty none_at
  rw [← SameButPaths.pathAt_set nonempty] at start
  obtain ⟨kept, assigned⟩ : SameButPaths entries resolved ∧ Assigning entries (pathAt resolved) [] := by
    simp only [resolved, resolvePaths, dif_pos nonempty]
    exact assigning_assignPaths (same.set nonempty Path.root) start
  refine ⟨kept, assigned.root, fun i _ => assigned.isSome_iff i, fun i p pos path => ?_, fun untangled i reached => ?_⟩
  · obtain ⟨s, parent, -, e, above, -, -, holds, found, joined⟩ := assigned.placed i p pos path
    exact ⟨s, parent, e, above, holds, found, joined⟩
  · obtain ⟨p, path⟩ := Option.isSome_iff_exists.1 ((assigned.isSome_iff i).2 reached)
    obtain ⟨names, within, rfl⟩ := assigned.inside path
    refine ⟨names, path, fun names' => ⟨fun other => other.unique untangled within, ?_⟩⟩
    rintro rfl
    exact within

/-- A storage whose links lead back to the root and to itself, and its sibling. -/
theorem resolvePaths_reachable_cycle :
    let entry (id : EntryId) (name : String) (type : ObjectType) (left right child : EntryId) : DirectoryEntry :=
      ⟨id, name, type, left, right, child, Guid.nil, 0, 0, none⟩
    let entries := #[entry 0 "Root Entry" .root 2 2 1, entry 1 "Pool" .storage 0 2 1,
      entry 2 "Pictures" .stream 1 EntryId.nowhere 7]
    0 < entries.size ∧ (∀ e ∈ entries, e.path = none) ∧ pathAt (resolvePaths entries) 0 = some "/" ∧
      (pathAt (resolvePaths entries) 2).isSome = true := by
  intro entry entries
  have pathless : ∀ e ∈ entries, e.path = none := by simp [entries, entry]
  have child : Link entries 0 .child 1 := ⟨_, rfl, .inl rfl, by decide, rfl, by decide, by decide⟩
  have right : Link entries 1 .right 2 := ⟨_, rfl, Nat.one_pos, by decide, rfl, by decide, by decide⟩
  have reached : Reachable entries 2 := (ReflTransGen.single ⟨_, child⟩).tail ⟨_, right⟩
  obtain ⟨-, root, iff, -⟩ := resolvePaths_reachable (by decide : 0 < entries.size) pathless
  exact ⟨by decide, pathless, root, (iff 2 (by decide)).2 reached⟩

end Directory

end DeckDump.Compound
