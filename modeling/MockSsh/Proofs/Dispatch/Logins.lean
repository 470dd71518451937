import MockSsh.Proofs.Dispatch.History
import MockSsh.Proofs.Text.Utf8

/-!
Login requests, told by the markers in them. The search for a marker finds it at whatever place it
stands (`Bytes.occurs_iff`), so a request is a probe exactly if the bytes of the probe marker are a part
of its payload (`Markers.classify_eq`), and a peer is logged in as soon as one of its login requests was
no probe (`Dispatcher.authenticated_dispatchAll`).
-/
namespace MockSsh

/-! ## Markers -/

theorem Bytes.occurs_iff {needle bytes : Bytes} : occurs needle bytes = true ↔ needle <:+: bytes := by
  induction bytes with
  | nil => rw [occurs, List.isEmpty_iff, List.infix_nil]
  | cons b rest ih =>
    rw [occurs, Bool.or_eq_true, ih, List.isPrefixOf_iff_prefix, List.infix_cons_iff]

/-- The marker is a text, not an empty one, and its bytes stand together somewhere in the payload. -/
structure Marked (marker : String) (payload : Bytes) : Prop where
  named : marker ≠ ""
  found : Utf8.encode marker <:+: payload

theorem marks_iff {marker : String} {payload : Bytes} :
    marks marker payload = true ↔ Marked marker payload := by
  have hnamed : (!(Utf8.encode marker).isEmpty) = true ↔ marker ≠ "" := by
    rw [Bool.not_eq_true', ← Bool.not_eq_true, List.isEmpty_iff, Utf8.encode_eq_nil_iff]
  rw [marks, Bool.and_eq_true, hnamed, Bytes.occurs_iff]
  exact ⟨fun ⟨hnamed, hfound⟩ => ⟨hnamed, hfound⟩, fun ⟨hnamed, hfound⟩ => ⟨hnamed, hfound⟩⟩

instance (marker : String) (payload : Bytes) : Decidable (Marked marker payload) :=
  decidable_of_iff _ marks_iff

namespace Markers

variable (markers : Markers)

/-- **The kind** of a login request. The probe marker comes first, and where neither marker stands the
request is an ordinary one. -/
theorem classify_eq (payload : Bytes) :
    markers.classify payload =
      if Marked markers.probe payload then .publicKeyProbe
      else if Marked markers.signed payload then .signedRequest
      else .generic := by
  simp only [classify, marks_iff]

/-- The probe marker stands one byte behind a place where it only seems to, and holds the other one. -/
example : classify ⟨"aab", "ab"⟩ [97, 97, 97, 98] = .publicKeyProbe := by decide

theorem authenticates_classify_iff {payload : Bytes} :
    (markers.classify payload).authenticates = true ↔ ¬ Marked markers.probe payload := by
  rw [classify_eq]
  by_cases hprobe : Marked markers.probe payload
  · simp [hprobe, LoginKind.authenticates]
  · rw [if_neg hprobe]
    split <;> simp [hprobe, LoginKind.authenticates]

theorem logsIn_iff {packet : Packet} :
    markers.logsIn packet = true ↔
      packet.kind? = some .authRequest ∧ ¬ Marked markers.probe packet.payload := by
  unfold Markers.logsIn
  split
  · next hkind => rw [authenticates_classify_iff, hkind, eq_self, true_and]
  · next hother => simpa using fun hkind => absurd hkind hother

end Markers

/-! ## Dispatching -/

namespace Dispatcher

variable {κ : Type} [KeyExchange κ]

theorem authenticated_dispatchAll (dispatcher : Dispatcher κ) (connection : Connection)
    (history : List Inbound) :
    (dispatcher.dispatchAll connection history).2.authenticated =
      (connection.authenticated ||
        history.any fun inbound => dispatcher.markers.logsIn inbound.packet) := by
  induction history generalizing dispatcher connection with
  | nil => rw [dispatchAll, List.any_nil, Bool.or_false]
  | cons inbound rest ih =>
    obtain ⟨-, hmarkers⟩ := dispatcher.settings_dispatch connection inbound
    rw [dispatchAll, ih, hmarkers, connection_dispatch, List.any_cons, Bool.or_assoc]

/-- **Login requests** are answered with one reply, whatever they hold. Where the probe marker stands in
the payload, the reply says that a key would do, names its algorithm and no key, and the connection stays
as it is; everywhere else the login succeeds and the connection is logged in. So after any packets the
peer is logged in if and only if it was before or some login request among them was no probe. -/
theorem dispatch_authRequest (dispatcher : Dispatcher κ) (connection : Connection)
    (sequence : UInt32) (payload : Bytes) (padding : UInt8) (history : List Inbound) :
    let markers := dispatcher.markers
    let outcome := dispatcher.dispatch connection ⟨sequence, ⟨50, payload, padding⟩⟩
    let wouldDo := Message.PublicKeyOk.own.packet
    (outcome.result, outcome.connection) =
      (if Marked markers.probe payload then (.ok ⟨[wouldDo], .proceed⟩, connection)
      else (.ok ⟨[.ofKind .authSuccess []], .proceed⟩,
        { connection with authenticated := true })) ∧
    (wouldDo.kind? = some .authPublicKeyOk ∧
      Message.PublicKeyOk.parse wouldDo.payload = .ok ⟨"ssh-ed25519", []⟩) ∧
    markers.classify payload =
      (if Marked markers.probe payload then .publicKeyProbe
      else if Marked markers.signed payload then .signedRequest
      else .generic) ∧
    ((dispatcher.dispatchAll connection history).2.authenticated = true ↔
      connection.authenticated = true ∨ ∃ inbound ∈ history,
        inbound.packet.kind? = some .authRequest ∧
          ¬ Marked markers.probe inbound.packet.payload) := by
  intro markers outcome wouldDo
  refine ⟨?_, ⟨rfl, ?_⟩, markers.classify_eq payload, ?_⟩
  · have hresult : outcome.result = _ := result_authRequest connection markers payload
    have hconnection : outcome.connection = _ := connection.connection_authRequest payload markers
    rw [hresult, hconnection]
    by_cases hprobe : Marked markers.probe payload
    · have hnot : (markers.classify payload).authenticates = false :=
        Bool.eq_false_iff.mpr fun h => markers.authenticates_classify_iff.mp h hprobe
      rw [if_pos hprobe, hnot, Bool.or_false]
      rfl
    · rw [if_neg hprobe, markers.authenticates_classify_iff.mpr hprobe, Bool.or_true]
      rfl
  · decide +kernel
  · rw [authenticated_dispatchAll, Bool.or_eq_true, List.any_eq_true]
    simp only [Markers.logsIn_iff]
    rfl

end Dispatcher
end MockSsh
