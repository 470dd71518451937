import MockSsh.Config.Document
import MockSsh.Toml.Document

/-!
Which keys of a document count. At the top level a key that names no setting refuses the whole document
(`Config.ofEntries?_of_unknown`). Among the markers such a key is as good as absent, however the table
came about (`Config.ofEntries?_map_heeded`). What a text says is told by these two alone, whatever parser
takes it apart (`Config.ofText_by_keys`).
-/
namespace MockSsh

open Toml (Node Entries)

/-- The keys of a table. -/
def Toml.Node.keys : Node → List String
  | .table _ entries => entries.map Prod.fst
  | _ => []

/-- A table without what stands under other keys. -/
def Toml.Node.restrict (keys : List String) : Node → Node
  | .table origin entries => .table origin (entries.filter fun entry => entry.1 ∈ keys)
  | node => node

/-! ## Markers -/

namespace Markers

/-- The names of the markers. -/
def keys : List String := ["probe", "signed"]

theorem withEntry_of_unknown {key : String} (h : key ∉ keys) (markers : Markers) (node : Node) :
    markers.withEntry key node = some markers := by
  unfold withEntry
  split
  · exact absurd (by decide) h
  · exact absurd (by decide) h
  · rfl

/-- Unknown keys are passed over one by one. -/
theorem foldlM_filter_keys (entries : Entries) (markers : Markers) :
    (entries.filter fun entry => entry.1 ∈ keys).foldlM
        (fun markers entry => withEntry markers entry.1 entry.2) markers
      = entries.foldlM (fun markers entry => withEntry markers entry.1 entry.2) markers := by
  induction entries generalizing markers with
  | nil => rfl
  | cons entry rest ih =>
    rw [List.filter_cons, List.foldlM_cons]
    split
    · rw [List.foldlM_cons]
      exact bind_congr ih
    · next hunknown =>
      rw [withEntry_of_unknown (by simpa using hunknown)]
      exact ih markers

theorem ofNode?_restrict (node : Node) : ofNode? (node.restrict keys) = ofNode? node := by
  cases node with
  | table origin entries => exact foldlM_filter_keys entries default
  | text _ | integer _ | float _ | boolean _ | moment _ | array _ | tables _ => rfl

end Markers

/-! ## Settings -/

namespace Config

/-- The names of the settings. -/
def keys : List String :=
  ["listen_addr", "server_version", "channel_id_policy", "unknown_message_policy",
    "max_identification_length", "max_packet_length", "auth_markers"]

/-- What counts of an entry: of the markers those that have a name. -/
def heeded (entry : String × Node) : String × Node :=
  if entry.1 = "auth_markers" then (entry.1, entry.2.restrict Markers.keys) else entry

theorem withEntry_heeded (config : Config) (entry : String × Node) :
    config.withEntry (heeded entry).1 (heeded entry).2 = config.withEntry entry.1 entry.2 := by
  obtain ⟨key, node⟩ := entry
  unfold heeded
  split
  · next hmarkers =>
    cases hmarkers
    show (Markers.ofNode? (node.restrict Markers.keys)).map _ = (Markers.ofNode? node).map _
    rw [Markers.ofNode?_restrict]
  · rfl

theorem ofEntries?_map_heeded (entries : Entries) :
    ofEntries? (entries.map heeded) = ofEntries? entries := by
  rw [ofEntries?, List.foldlM_map]
  exact congrArg (entries.foldlM · default)
    (funext fun config => funext fun entry => config.withEntry_heeded entry)

theorem mem_keys_of_withEntry {config after : Config} {key : String} {node : Node}
    (h : config.withEntry key node = some after) : key ∈ keys := by
  unfold withEntry at h
  split at h
  case h_8 => cases h
  all_goals decide

theorem mem_keys_of_foldlM {entries : Entries} {config after : Config}
    (h : entries.foldlM (fun config entry => config.withEntry entry.1 entry.2) config = some after) :
    ∀ entry ∈ entries, entry.1 ∈ keys := by
  induction entries generalizing config with
  | nil => exact List.forall_mem_nil _
  | cons entry rest ih =>
    rw [List.foldlM_cons] at h
    obtain ⟨next, hentry, hrest⟩ := Option.bind_eq_some_iff.mp h
    exact List.forall_mem_cons.mpr ⟨mem_keys_of_withEntry hentry, ih hrest⟩

/-- A document with an unknown key has no settings, whatever else stands there. -/
theorem ofEntries?_of_unknown {entries : Entries} (h : ¬ ∀ entry ∈ entries, entry.1 ∈ keys) :
    ofEntries? entries = none :=
  Option.eq_none_iff_forall_ne_some.mpr fun _ hafter => h (mem_keys_of_foldlM hafter)

/-- **What a text says**, by its keys. If it is a document and each of its keys at the top level names
a setting, it says what it would say without the keys among the markers that name none; if one does
not, it is refused. -/
theorem ofText_by_keys (parse : String → Option Entries) (text : String) :
    ofText parse text =
      match parse text with
      | some entries =>
        if ∀ entry ∈ entries, entry.1 ∈ keys then
          match ofEntries? (entries.map heeded) with
          | some config => config.validate
          | none => .error .malformedDocument
        else .error .malformedDocument
      | none => .error .malformedDocument := by
  rw [ofText, read?]
  cases parse text with
  | none => rfl
  | some entries =>
    simp only [Option.bind_some, ofEntries?_map_heeded]
    by_cases hknown : ∀ entry ∈ entries, entry.1 ∈ keys
    · rw [if_pos hknown]
      cases ofEntries? entries <;> rfl
    · rw [if_neg hknown, ofEntries?_of_unknown hknown]
      rfl

/-- A misspelt marker, in a table with a header, in one between braces and under a dotted key: each text
says as much as one without any key. At the top level the same key is refused. -/
theorem ofText_by_keys_misspelt :
    "porbe" ∉ Markers.keys ∧
    (∀ text ∈ ["[auth_markers]\nporbe = 'x'\n", "auth_markers = \x7bporbe = 'x'\x7d\n",
        "auth_markers.porbe = 'x'\n"],
      (Toml.parse? text).map (·.map fun entry => (entry.1, entry.2.keys))
          = some [("auth_markers", ["porbe"])] ∧
        (ofText Toml.parse? text).toOption = some default) ∧
    (ofText Toml.parse? "porbe = 'x'\n").toOption = none := by
  decide +kernel

end Config
end MockSsh
