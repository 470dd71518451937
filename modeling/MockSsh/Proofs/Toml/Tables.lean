import MockSsh.Toml.Document

/-!
In a document that is read no table has a key twice, however deep it stands (`proper_of_parse?`). All
that builds a tree goes through `Entries.alter`, which puts a node where there was one or behind all
others; so a table stays proper as long as the nodes that are put there are
(`Entries.keepsTable_alter`). The readers of values give proper nodes (`givesProper_value`), and line by
line the document stays proper (`proper_of_lines`).
-/
namespace MockSsh.Toml

/-! ## Proper trees -/

/-- No table in the node has a key twice. -/
inductive Node.Proper : Node → Prop
  | text (value : String) : Proper (.text value)
  | integer (value : Int) : Proper (.integer value)
  | float (spelling : String) : Proper (.float spelling)
  | boolean (value : Bool) : Proper (.boolean value)
  | moment (spelling : String) : Proper (.moment spelling)
  | array {items : List Node} (h : ∀ node ∈ items, node.Proper) : Proper (.array items)
  | table {origin : Origin} {entries : List (String × Node)} (hkeys : (entries.map Prod.fst).Nodup)
      (hnodes : ∀ entry ∈ entries, entry.2.Proper) : Proper (.table origin entries)
  | tables {items : List (List (String × Node))}
      (hkeys : ∀ entries ∈ items, (entries.map Prod.fst).Nodup)
      (hnodes : ∀ entries ∈ items, ∀ entry ∈ entries, entry.2.Proper) : Proper (.tables items)

/-- No table has a key twice, the outermost one included. -/
structure Entries.Proper (entries : Entries) : Prop where
  keys : (entries.map Prod.fst).Nodup
  nodes : ∀ entry ∈ entries, entry.2.Proper

theorem Entries.proper_nil : Entries.Proper [] := ⟨List.nodup_nil, List.forall_mem_nil _⟩

@[simp] theorem Node.proper_table_iff {origin : Origin} {entries : Entries} :
    (Node.table origin entries).Proper ↔ entries.Proper := by
  constructor
  · rintro (_ | _ | _ | _ | _ | _ | ⟨hkeys, hnodes⟩ | _)
    exact ⟨hkeys, hnodes⟩
  · exact fun h => .table h.keys h.nodes

@[simp] theorem Node.proper_tables_iff {items : List Entries} :
    (Node.tables items).Proper ↔ ∀ entries ∈ items, entries.Proper := by
  constructor
  · rintro (_ | _ | _ | _ | _ | _ | _ | ⟨hkeys, hnodes⟩) entries hmem
    exact ⟨hkeys entries hmem, hnodes entries hmem⟩
  · exact fun h => .tables (fun entries hmem => (h entries hmem).keys)
      fun entries hmem => (h entries hmem).nodes

/-- The change makes a proper node of none or of a proper one. -/
def Keeps (change : Option Node → Option Node) : Prop :=
  ∀ before after, change before = some after → (∀ node ∈ before, node.Proper) → after.Proper

/-- The change keeps tables proper. -/
def KeepsTable (change : Entries → Option Entries) : Prop :=
  ∀ before after, change before = some after → before.Proper → after.Proper

namespace Entries

theorem mem_keys_of_alter {change : Option Node → Option Node} {key : String}
    {entries out : Entries} (h : entries.alter key change = some out) {other : String}
    (hother : other ∈ out.map Prod.fst) : other = key ∨ other ∈ entries.map Prod.fst := by
  induction entries generalizing out with
  | nil =>
    obtain ⟨node, -, rfl⟩ := Option.map_eq_some_iff.mp h
    exact .inl (by simpa using hother)
  | cons entry rest ih =>
    obtain ⟨name, node⟩ := entry
    rw [alter] at h
    split at h
    · obtain ⟨changed, -, rfl⟩ := Option.map_eq_some_iff.mp h
      exact .inr hother
    · obtain ⟨later, hlater, rfl⟩ := Option.map_eq_some_iff.mp h
      rcases List.mem_cons.mp hother with heq | hmem
      · exact .inr (heq ▸ List.mem_cons_self)
      · exact (ih hlater hmem).imp id (List.mem_cons_of_mem _)

/-- **A change at one key** keeps a table proper. -/
theorem keepsTable_alter {change : Option Node → Option Node} (hchange : Keeps change)
    (key : String) : KeepsTable (alter key change) := by
  intro entries out halter h
  induction entries generalizing out with
  | nil =>
    obtain ⟨node, hnode, rfl⟩ := Option.map_eq_some_iff.mp halter
    have hproper := hchange _ _ hnode (by simp)
    exact ⟨by simp, by simpa using hproper⟩
  | cons entry rest ih =>
    obtain ⟨name, node⟩ := entry
    obtain ⟨hnew, hrest⟩ := List.nodup_cons.mp h.keys
    obtain ⟨hnode, hnodes⟩ := List.forall_mem_cons.mp h.nodes
    rw [alter] at halter
    split at halter
    · obtain ⟨changed, hchanged, rfl⟩ := Option.map_eq_some_iff.mp halter
      have hproper := hchange _ _ hchanged (by simpa using hnode)
      exact ⟨h.keys, List.forall_mem_cons.mpr ⟨hproper, hnodes⟩⟩
    · next hname =>
      obtain ⟨later, hlater, rfl⟩ := Option.map_eq_some_iff.mp halter
      obtain ⟨hkeys, hproper⟩ := ih later hlater ⟨hrest, hnodes⟩
      refine ⟨List.nodup_cons.mpr ⟨fun hmem => ?_, hkeys⟩,
        List.forall_mem_cons.mpr ⟨hnode, hproper⟩⟩
      exact (mem_keys_of_alter hlater hmem).elim hname hnew

theorem keepsTable_add (key : String) {node : Node} (h : node.Proper) :
    KeepsTable (add key node) := by
  refine keepsTable_alter ?_ key
  intro before after hafter _
  cases before with
  | none =>
    cases hafter
    exact h
  | some _ => cases hafter

section Change

variable {change : Entries → Option Entries} (h : KeepsTable change)
include h

/-- A table may be changed where it stands. -/
theorem proper_of_map_table {origin : Origin} {entries : Entries} (hentries : entries.Proper)
    {after : Node} (hafter : (change entries).map (.table origin) = some after) : after.Proper := by
  obtain ⟨changed, hchanged, rfl⟩ := Option.map_eq_some_iff.mp hafter
  exact Node.proper_table_iff.mpr (h _ _ hchanged hentries)

/-- The latest table of an array may be changed where it stands. -/
theorem proper_of_map_latest {items : List Entries} (hitems : (Node.tables items).Proper)
    {latest : Entries} (hlatest : items.getLast? = some latest) {after : Node}
    (hafter : (change latest).map (fun latest => .tables (items.dropLast ++ [latest])) = some after) :
    after.Proper := by
  rw [Node.proper_tables_iff] at hitems
  obtain ⟨changed, hchanged, rfl⟩ := Option.map_eq_some_iff.mp hafter
  rw [Node.proper_tables_iff]
  intro entries hmem
  rcases List.mem_append.mp hmem with hkept | hlast
  · exact hitems entries (List.dropLast_subset items hkept)
  · rw [List.mem_singleton.mp hlast]
    exact h _ _ hchanged (hitems latest (List.mem_of_getLast? hlatest))

end Change

theorem keepsTable_addDotted (path : List String) (key : String) {node : Node} (h : node.Proper) :
    KeepsTable (addDotted path key node) := by
  induction path with
  | nil => exact keepsTable_add key h
  | cons step path ih =>
    refine keepsTable_alter ?_ step
    intro before after hafter hbefore
    dsimp only at hafter
    split at hafter
    · exact proper_of_map_table ih proper_nil hafter
    · exact proper_of_map_table ih (Node.proper_table_iff.mp (hbefore _ rfl)) hafter
    · split at hafter
      · cases hafter
      · exact proper_of_map_table ih (Node.proper_table_iff.mp (hbefore _ rfl)) hafter
    · split at hafter
      · next hlatest =>
        split at hafter
        · cases hafter
        · exact proper_of_map_latest ih (hbefore _ rfl) hlatest hafter
      · cases hafter
    · cases hafter

theorem keepsTable_inside (path : List String) {change : Entries → Option Entries}
    (h : KeepsTable change) : KeepsTable (inside path change) := by
  induction path with
  | nil => exact h
  | cons step path ih =>
    refine keepsTable_alter ?_ step
    intro before after hafter hbefore
    dsimp only at hafter
    split at hafter
    · exact proper_of_map_table ih proper_nil hafter
    · cases hafter
    · exact proper_of_map_table ih (Node.proper_table_iff.mp (hbefore _ rfl)) hafter
    · split at hafter
      · next hlatest => exact proper_of_map_latest ih (hbefore _ rfl) hlatest hafter
      · cases hafter
    · cases hafter

theorem keepsTable_openTable (key : String) : KeepsTable (openTable key) := by
  refine keepsTable_alter ?_ key
  intro before after hafter hbefore
  dsimp only at hafter
  split at hafter
  · cases hafter
    exact Node.proper_table_iff.mpr proper_nil
  · cases hafter
    exact Node.proper_table_iff.mpr (Node.proper_table_iff.mp (hbefore _ rfl))
  · cases hafter

theorem keepsTable_openItem (key : String) : KeepsTable (openItem key) := by
  refine keepsTable_alter ?_ key
  intro before after hafter hbefore
  dsimp only at hafter
  split at hafter
  · cases hafter
    exact Node.proper_tables_iff.mpr (List.forall_mem_singleton.mpr proper_nil)
  · cases hafter
    have hitems := Node.proper_tables_iff.mp (hbefore _ rfl)
    exact Node.proper_tables_iff.mpr
      (List.forall_mem_append.mpr ⟨hitems, List.forall_mem_singleton.mpr proper_nil⟩)
  · cases hafter

end Entries

/-! ## Readers -/

/-- The reader gives proper nodes. -/
def GivesProper (item : Reader Node) : Prop :=
  ∀ cs node rest, item cs = some (node, rest) → node.Proper

theorem proper_of_arrayItems {item : Reader Node} (h : GivesProper item) {bound : Nat}
    {cs rest : List Char} {nodes : List Node}
    (hread : arrayItems item bound cs = some (nodes, rest)) : ∀ node ∈ nodes, node.Proper := by
  induction bound generalizing cs nodes with
  | zero => cases hread
  | succ bound ih =>
    rw [arrayItems] at hread
    split at hread
    · cases hread
      exact List.forall_mem_nil _
    · obtain ⟨⟨node, after⟩, hnode, hread⟩ := Option.bind_eq_some_iff.mp hread
      have hproper := h _ _ _ hnode
      dsimp only at hread
      split at hread
      · obtain ⟨⟨later, last⟩, hlater, hread⟩ := Option.bind_eq_some_iff.mp hread
        cases hread
        exact List.forall_mem_cons.mpr ⟨hproper, ih hlater⟩
      · cases hread
        exact List.forall_mem_singleton.mpr hproper
      · cases hread

theorem proper_of_keyValue {item : Reader Node} (h : GivesProper item) {cs rest : List Char}
    {name : List String × String} {node : Node}
    (hread : keyValue item cs = some ((name, node), rest)) : node.Proper := by
  obtain ⟨⟨found, after⟩, -, hread⟩ := Option.bind_eq_some_iff.mp hread
  dsimp only at hread
  split at hread
  · obtain ⟨⟨value, last⟩, hvalue, hread⟩ := Option.bind_eq_some_iff.mp hread
    cases hread
    exact h _ _ _ hvalue
  · cases hread

theorem proper_of_tableItems {item : Reader Node} (h : GivesProper item) {bound : Nat}
    {cs rest : List Char} {pairs : List ((List String × String) × Node)}
    (hread : tableItems item bound cs = some (pairs, rest)) : ∀ pair ∈ pairs, pair.2.Proper := by
  induction bound generalizing cs pairs with
  | zero => cases hread
  | succ bound ih =>
    obtain ⟨⟨pair, after⟩, hpair, hread⟩ := Option.bind_eq_some_iff.mp hread
    have hproper := proper_of_keyValue h hpair
    dsimp only at hread
    split at hread
    · obtain ⟨⟨later, last⟩, hlater, hread⟩ := Option.bind_eq_some_iff.mp hread
      cases hread
      exact List.forall_mem_cons.mpr ⟨hproper, ih hlater⟩
    · cases hread
      exact List.forall_mem_singleton.mpr hproper
    · cases hread

theorem proper_of_tableOf {pairs : List ((List String × String) × Node)}
    (h : ∀ pair ∈ pairs, pair.2.Proper) {start entries : Entries} (hstart : start.Proper)
    (htable : pairs.foldlM (fun entries pair => entries.addDotted pair.1.1 pair.1.2 pair.2) start
      = some entries) : entries.Proper := by
  induction pairs generalizing start with
  | nil =>
    cases htable
    exact hstart
  | cons pair pairs ih =>
    obtain ⟨hpair, hpairs⟩ := List.forall_mem_cons.mp h
    rw [List.foldlM_cons] at htable
    obtain ⟨next, hnext, htable⟩ := Option.bind_eq_some_iff.mp htable
    exact ih hpairs (Entries.keepsTable_addDotted _ _ hpair _ _ hnext hstart) htable

theorem givesProper_numberOrMoment : GivesProper numberOrMoment := by
  intro cs node rest hread
  unfold numberOrMoment at hread
  split at hread
  · obtain ⟨after, -, hread⟩ := Option.bind_eq_some_iff.mp hread
    cases hread
    exact .moment _
  · obtain ⟨⟨kind, after⟩, -, hread⟩ := Option.bind_eq_some_iff.mp hread
    split at hread
    · cases hread
      exact .integer _
    · cases hread
      exact .float _

/-- A value is proper: the induction is on how deep others may nest in it. -/
theorem givesProper_value (depth : Nat) : GivesProper (value depth) := by
  induction depth using Nat.strongRecOn with
  | ind depth ih =>
    intro cs node rest hread
    unfold value at hread
    split at hread
    · obtain ⟨⟨text, after⟩, -, hread⟩ := Option.map_eq_some_iff.mp hread
      cases hread
      exact .text _
    · obtain ⟨⟨text, after⟩, -, hread⟩ := Option.map_eq_some_iff.mp hread
      cases hread
      exact .text _
    · cases hread
      exact .boolean _
    · cases hread
      exact .boolean _
    · split at hread
      · cases hread
      · next inner =>
        obtain ⟨⟨nodes, after⟩, hnodes, hread⟩ := Option.bind_eq_some_iff.mp hread
        cases hread
        exact .array (proper_of_arrayItems (ih inner (Nat.lt_succ_self inner)) hnodes)
    · split at hread
      · cases hread
      · next inner =>
        split at hread
        · cases hread
          exact Node.proper_table_iff.mpr Entries.proper_nil
        · obtain ⟨⟨pairs, after⟩, hpairs, hread⟩ := Option.bind_eq_some_iff.mp hread
          obtain ⟨entries, htable, hread⟩ := Option.bind_eq_some_iff.mp hread
          cases hread
          exact Node.proper_table_iff.mpr (proper_of_tableOf
            (proper_of_tableItems (ih inner (Nat.lt_succ_self inner)) hpairs)
            Entries.proper_nil htable)
    · exact givesProper_numberOrMoment _ _ _ hread

/-! ## Lines -/

theorem proper_of_header {draft after : Draft} {cs rest : List Char} (h : draft.root.Proper)
    (hread : header draft cs = some (after, rest)) : after.root.Proper := by
  unfold header at hread
  split at hread
  · obtain ⟨⟨⟨path, last⟩, left⟩, -, hread⟩ := Option.bind_eq_some_iff.mp hread
    obtain ⟨root, hroot, hread⟩ := Option.bind_eq_some_iff.mp hread
    obtain ⟨_, -, hread⟩ := Option.bind_eq_some_iff.mp hread
    obtain ⟨_, -, hread⟩ := Option.bind_eq_some_iff.mp hread
    obtain ⟨_, -, hread⟩ := Option.bind_eq_some_iff.mp hread
    cases hread
    exact Entries.keepsTable_inside path (Entries.keepsTable_openItem last) _ _ hroot h
  · obtain ⟨⟨⟨path, last⟩, left⟩, -, hread⟩ := Option.bind_eq_some_iff.mp hread
    obtain ⟨root, hroot, hread⟩ := Option.bind_eq_some_iff.mp hread
    obtain ⟨_, -, hread⟩ := Option.bind_eq_some_iff.mp hread
    obtain ⟨_, -, hread⟩ := Option.bind_eq_some_iff.mp hread
    cases hread
    exact Entries.keepsTable_inside path (Entries.keepsTable_openTable last) _ _ hroot h

theorem proper_of_assignment {draft after : Draft} {cs rest : List Char} (h : draft.root.Proper)
    (hread : assignment draft cs = some (after, rest)) : after.root.Proper := by
  obtain ⟨⟨⟨⟨path, last⟩, node⟩, left⟩, hpair, hread⟩ := Option.bind_eq_some_iff.mp hread
  obtain ⟨root, hroot, hread⟩ := Option.bind_eq_some_iff.mp hread
  obtain ⟨_, -, hread⟩ := Option.bind_eq_some_iff.mp hread
  cases hread
  have hnode := proper_of_keyValue (givesProper_value depthLimit) hpair
  exact Entries.keepsTable_inside _ (Entries.keepsTable_addDotted path last hnode) _ _ hroot h

theorem proper_of_lines {bound : Nat} {draft : Draft} {cs : List Char} {entries : Entries}
    (h : draft.root.Proper) (hread : lines bound draft cs = some entries) : entries.Proper := by
  induction bound generalizing draft cs with
  | zero => cases hread
  | succ bound ih =>
    rw [lines] at hread
    split at hread
    · cases hread
      exact h
    · obtain ⟨rest, -, hread⟩ := Option.bind_eq_some_iff.mp hread
      exact ih h hread
    · obtain ⟨⟨after, rest⟩, hheader, hread⟩ := Option.bind_eq_some_iff.mp hread
      exact ih (proper_of_header h hheader) hread
    · exact ih h hread
    · obtain ⟨rest, -, hread⟩ := Option.bind_eq_some_iff.mp hread
      exact ih h hread
    · obtain ⟨⟨after, rest⟩, hassigned, hread⟩ := Option.bind_eq_some_iff.mp hread
      exact ih (proper_of_assignment h hassigned) hread

/-- **Keys occur once**: in no document that is read a table has a key twice, however deep it stands. -/
theorem proper_of_parse? {text : String} {entries : Entries} (h : parse? text = some entries) :
    entries.Proper :=
  proper_of_lines Entries.proper_nil h

end MockSsh.Toml
