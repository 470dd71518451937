import MockSsh.CommandLine
import MockSsh.Proofs.Identification.Wire

/-!
What the program serves with, told by what its file says and what its flags put in place of that, with
any parser for the text of the file. The
flags decide which settings are judged, with one exception: an address that a file leaves empty is
never replaced (`Options.settings_of_usable`). So a file and flags can be served with if and only if
the settings with the flags in place can be used and the file has an address of its own
(`Options.settings_eq_ok_iff`).
-/
namespace MockSsh.CommandLine

namespace Options

variable {parse : String → Option Toml.Entries} {read : String → Except ReadFault String}

/-- What the flags are put into: what the file says, usable or not, or the default settings where no
file is named. -/
def base (options : Options) (parse : String → Option Toml.Entries)
    (read : String → Except ReadFault String) : Except ConfigFault Config :=
  match options.config with
  | none => .ok .default
  | some path =>
    match read path with
    | .error reason => .error (.unreadable path reason)
    | .ok text => Config.read? parse text

/-- A file is judged as it stands, before any flag is in place, and judged again afterwards. -/
theorem settings_eq (options : Options) :
    options.settings parse read = options.base parse read >>= fun base =>
      if options.config.isSome then
        base.validate >>= fun judged => (options.merge judged).validate
      else (options.merge base).validate := by
  unfold settings base
  cases options.config with
  | none => rfl
  | some path =>
    dsimp only [Config.load, Config.ofText]
    cases read path with
    | error reason => rfl
    | ok text =>
      dsimp only
      cases Config.read? parse text <;> rfl

/-- A flag can hide only one thing that is wrong with settings, and that is an empty address: the other
flags put a policy in place of a policy. -/
theorem fault?_of_merge {options : Options} {base : Config} (h : (options.merge base).fault? = none) :
    base.fault? = if base.listenAddress.isEmpty then some .emptyListenAddress else none := by
  unfold Config.fault? at h ⊢
  split at h
  · cases h
  · split
    · rfl
    · exact h

/-- Flags that make settings usable do not make up for an address that the file leaves empty. -/
theorem settings_of_usable {options : Options} {base : Config}
    (hbase : options.base parse read = .ok base) (h : (options.merge base).fault? = none) :
    options.settings parse read =
      if options.config.isSome ∧ base.listenAddress.isEmpty then .error .emptyListenAddress
      else .ok (options.merge base) := by
  have hmerged : (options.merge base).validate = .ok (options.merge base) :=
    Config.validate_eq_ok_iff.mpr ⟨h, rfl⟩
  rw [settings_eq, hbase]
  show (if _ then base.validate >>= _ else _) = _
  rw [Config.validate, fault?_of_merge h]
  cases options.config.isSome with
  | false => exact hmerged
  | true =>
    cases base.listenAddress.isEmpty with
    | false => exact hmerged
    | true => rfl

/-- Nothing is served with that was not judged with the flags in place. -/
theorem usable_of_settings {options : Options} {config : Config}
    (h : options.settings parse read = .ok config) :
    ∃ base, options.base parse read = .ok base ∧ (options.merge base).fault? = none := by
  rw [settings_eq] at h
  cases hbase : options.base parse read with
  | error fault =>
    rw [hbase] at h
    cases h
  | ok base =>
    rw [hbase] at h
    change (if _ then base.validate >>= _ else _) = _ at h
    refine ⟨base, rfl, ?_⟩
    split at h
    · cases hvalid : base.validate with
      | error fault =>
        rw [hvalid] at h
        cases h
      | ok judged =>
        obtain ⟨-, rfl⟩ := Config.validate_eq_ok_iff.mp hvalid
        rw [hvalid] at h
        exact (Config.validate_eq_ok_iff.mp h).1
    · exact (Config.validate_eq_ok_iff.mp h).1

/-- **What the program serves with.** The settings of the file, or the default ones, with the flags in
place, if these can be used; and where there is a file, only if its own address is not empty. -/
theorem settings_eq_ok_iff (options : Options) (parse : String → Option Toml.Entries)
    (read : String → Except ReadFault String) (config : Config) :
    options.settings parse read = .ok config ↔
      ∃ base, options.base parse read = .ok base ∧ (options.merge base).fault? = none ∧
        (options.config.isSome → base.listenAddress ≠ "") ∧ options.merge base = config := by
  constructor
  · intro h
    obtain ⟨base, hbase, husable⟩ := usable_of_settings h
    rw [settings_of_usable hbase husable] at h
    split at h
    · cases h
    · next hkept =>
      cases h
      exact ⟨base, hbase, husable, fun hfile hempty => hkept ⟨hfile, by rw [hempty]; rfl⟩, rfl⟩
  · rintro ⟨base, hbase, husable, haddress, rfl⟩
    rw [settings_of_usable hbase husable, if_neg]
    rintro ⟨hfile, hempty⟩
    exact haddress hfile (String.isEmpty_iff.mp hempty)

/-- A file that leaves its address empty, with a flag that gives one: the settings with the flag in
place can be used, and the program refuses them all the same. -/
theorem settings_refused_usable :
    let options : Options := { empty with config := some "mirage.toml", listen := some "127.0.0.1:0" }
    let read : String → Except ReadFault String := fun _ => .ok "listen_addr = ''\n"
    let base : Config := { Config.default with listenAddress := "" }
    options.base Toml.parse? read = .ok base ∧ (options.merge base).fault? = none ∧
      options.settings Toml.parse? read = .error .emptyListenAddress := by
  decide +kernel

end Options
end MockSsh.CommandLine
