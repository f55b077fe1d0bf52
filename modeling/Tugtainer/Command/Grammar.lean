import Tugtainer.Command.Connect

/-!
# The commands that are accepted

The only commands meant to pass are `network connect` with its flags and two names. An
alias is checked by a pattern that may leave a line feed at its end unread, so the
validator accepts more than that: `followsGrammar_iff` says for which commands it does not.
-/

namespace Tugtainer

open Python

/-! ## The grammar -/

/-- One letter or digit and at most 62 characters after it. -/
def IsAlias (value : String) : Prop := matchesName 62 value.toList = true

/-- One letter or digit and at most 127 characters after it. -/
def IsDockerName (value : String) : Prop := matchesName 127 value.toList = true

instance (value : String) : Decidable (IsAlias value) := inferInstanceAs (Decidable (_ = true))

instance (value : String) : Decidable (IsDockerName value) :=
  inferInstanceAs (Decidable (_ = true))

/-- Pairs of a flag and its value, and then the names of the network and the container. -/
inductive ConnectArgs (isAlias : String → Prop) : List String → Prop
  | names {network container : String} (hnetwork : IsDockerName network)
      (hcontainer : IsDockerName container) : ConnectArgs isAlias [network, container]
  | withAlias {value : String} {args : List String} (hvalue : isAlias value)
      (hargs : ConnectArgs isAlias args) : ConnectArgs isAlias ("--alias" :: value :: args)
  | withIp {value : String} {args : List String} (hvalue : isIpAddress value = true)
      (hargs : ConnectArgs isAlias args) : ConnectArgs isAlias ("--ip" :: value :: args)
  | withIp6 {value : String} {args : List String} (hvalue : isIpAddress value = true)
      (hargs : ConnectArgs isAlias args) : ConnectArgs isAlias ("--ip6" :: value :: args)

/-- The command is `network connect` with such arguments. -/
def IsNetworkConnect (isAlias : String → Prop) (cmd : List String) : Prop :=
  ∃ args, cmd = "network" :: "connect" :: args ∧ ConnectArgs isAlias args

/-! ## What the validator accepts -/

theorem validateDockerName_eq_ok_iff {value : String} :
    validateDockerName value = .ok () ↔ IsDockerName value := by
  unfold validateDockerName IsDockerName
  split
  · simp [*]
  · simp [*]

theorem validateIp_eq_ok_iff {value : String} :
    validateIp value = .ok () ↔ isIpAddress value = true := by
  unfold validateIp
  split
  · simp [*]
  · simp [*]

theorem flag_cases {flag : String} {validator : Validator}
    (h : networkConnectSchema.flags.get? flag = some validator) :
    flag = "--alias" ∧ validator = validateAlias ∨
      (flag = "--ip" ∨ flag = "--ip6") ∧ validator = validateIp := by
  simp only [networkConnectSchema, Dict.get?] at h
  split at h
  · rename_i heq
    cases h
    exact .inl ⟨heq.symm, rfl⟩
  · split at h
    · rename_i heq
      cases h
      exact .inr ⟨.inl heq.symm, rfl⟩
    · split at h
      · rename_i heq
        cases h
        exact .inr ⟨.inr heq.symm, rfl⟩
      · cases h

theorem scanArguments_positional {flags : Dict String Validator} {args positional out : List String}
    (hne : positional ≠ []) (h : scanArguments flags args positional = .ok out) :
    out = positional ++ args := by
  induction args generalizing positional with
  | nil =>
      rw [scanArguments] at h
      cases h
      exact (List.append_nil _).symm
  | cons part rest ih =>
      rw [scanArguments.eq_def] at h
      simp only [if_pos hne] at h
      split at h
      · cases h
      · rw [ih (by simp) h, List.append_assoc, List.singleton_append]

/-- Before the first name, the scan takes a flag with its value, or all that is left. -/
theorem scanArguments_cases {flags : Dict String Validator} {part : String}
    {rest out : List String} (h : scanArguments flags (part :: rest) [] = .ok out) :
    (∃ validator value rest', rest = value :: rest' ∧ flags.get? part = some validator ∧
      validator value = .ok () ∧ scanArguments flags rest' [] = .ok out) ∨ out = part :: rest := by
  rw [scanArguments.eq_def] at h
  simp only [ne_eq, not_true_eq_false, if_false] at h
  split at h
  · cases hflag : flags.get? part with
    | none => simp [hflag] at h
    | some validator =>
        cases rest with
        | nil => simp [hflag] at h
        | cons value rest =>
            cases hvalue : validator value with
            | error e => simp [hflag, hvalue] at h
            | ok u =>
                simp only [hflag, hvalue] at h
                exact .inl ⟨validator, value, rest, rfl, rfl, hvalue, h⟩
  · exact .inr (scanArguments_positional (by simp) h)

theorem connectArgs_of_scanArguments {network container : String} (hnetwork : IsDockerName network)
    (hcontainer : IsDockerName container) : ∀ {args : List String},
      scanArguments networkConnectSchema.flags args [] = .ok [network, container] →
      ConnectArgs (fun value => validateAlias value = .ok ()) args
  | [], h => by cases h
  | [part], h => by
      obtain ⟨_, _, _, ⟨⟩, -⟩ := (scanArguments_cases h).resolve_right (by simp)
  | part :: value :: args, h => by
      rcases scanArguments_cases h with ⟨validator, _, _, ⟨⟩, hflag, hvalue, hrest⟩ | heq
      · have ih := connectArgs_of_scanArguments hnetwork hcontainer hrest
        rcases flag_cases hflag with ⟨rfl, rfl⟩ | ⟨rfl | rfl, rfl⟩
        · exact .withAlias hvalue ih
        · exact .withIp (validateIp_eq_ok_iff.1 hvalue) ih
        · exact .withIp6 (validateIp_eq_ok_iff.1 hvalue) ih
      · cases heq
        exact .names hnetwork hcontainer

theorem ConnectArgs.scanArguments {args : List String}
    (h : ConnectArgs (fun value => validateAlias value = .ok ()) args) :
    ∃ network container, Tugtainer.scanArguments networkConnectSchema.flags args [] =
        .ok [network, container] ∧
      validateDockerName network = .ok () ∧ validateDockerName container = .ok () := by
  induction h with
  | @names network container hnetwork hcontainer =>
      have hnetwork := validateDockerName_eq_ok_iff.2 hnetwork
      have hcontainer := validateDockerName_eq_ok_iff.2 hcontainer
      refine ⟨network, container, ?_, hnetwork, hcontainer⟩
      rw [scanArguments_name hnetwork, scanArguments_name hcontainer]
      rfl
  | withAlias hvalue _ ih => rwa [scanArguments_flag (by decide) rfl hvalue]
  | withIp hvalue _ ih => rwa [scanArguments_flag (by decide) rfl (validateIp_eq_ok_iff.2 hvalue)]
  | withIp6 hvalue _ ih => rwa [scanArguments_flag (by decide) rfl (validateIp_eq_ok_iff.2 hvalue)]

theorem exists_args_of_resolveCommandSchema {cmd key : List String} {schema : CmdSchema}
    (h : resolveCommandSchema cmd = .ok (key, schema)) :
    ∃ args, cmd = "network" :: "connect" :: args := by
  by_contra hne
  have hget : ∀ i, commandSchemas.get? (cmd.take i) = none := by
    intro i
    refine if_neg fun htake => hne ⟨cmd.drop i, ?_⟩
    calc cmd = cmd.take i ++ cmd.drop i := (List.take_append_drop i cmd).symm
      _ = ["network", "connect"] ++ cmd.drop i := by rw [← htake]
  cases cmd with
  | nil => cases h
  | cons part cmd =>
      have hnone : ∀ key' ∈ (List.range (part :: cmd).length).reverse.map fun i =>
          (part :: cmd).take (i + 1),
          (commandSchemas.get? key').map (key', ·) = none := by
        intro key' hkey
        obtain ⟨i, -, rfl⟩ := List.mem_map.1 hkey
        rw [hget, Option.map_none]
      simp only [resolveCommandSchema, List.findSome?_eq_none_iff.2 hnone] at h
      cases h

theorem exists_names_of_checkPositional {positional : List String}
    (hlength : positional.length = networkConnectSchema.positional.length)
    (h : checkPositional positional networkConnectSchema.positional = .ok ()) :
    ∃ network container, positional = [network, container] ∧ IsDockerName network ∧
      IsDockerName container := by
  obtain ⟨network, container, rfl⟩ := List.length_eq_two.1 hlength
  refine ⟨network, container, rfl, ?_⟩
  cases hnetwork : validateDockerName network with
  | error e => simp [checkPositional, networkConnectSchema, hnetwork] at h
  | ok u =>
      cases hcontainer : validateDockerName container with
      | error e => simp [checkPositional, networkConnectSchema, hnetwork, hcontainer] at h
      | ok u =>
          exact ⟨validateDockerName_eq_ok_iff.1 hnetwork, validateDockerName_eq_ok_iff.1 hcontainer⟩

theorem commandValidator_eq_ok_iff {cmd cmd' : List String} :
    commandValidator cmd = .ok cmd' ↔
      cmd' = cmd ∧ IsNetworkConnect (fun value => validateAlias value = .ok ()) cmd := by
  constructor
  · intro h
    unfold commandValidator at h
    cases hresolve : resolveCommandSchema cmd with
    | error e => simp [hresolve] at h
    | ok found =>
        obtain ⟨args, rfl⟩ := exists_args_of_resolveCommandSchema hresolve
        simp only [resolveCommandSchema_networkConnect, List.length_cons, List.length_nil,
          List.drop_succ_cons, List.drop_zero] at h
        split at h
        · cases h
        · rename_i positional hscan
          split at h
          · cases h
          · rename_i hlength
            split at h
            · cases h
            · rename_i hpositional
              obtain ⟨network, container, rfl, hnetwork, hcontainer⟩ :=
                exists_names_of_checkPositional (not_not.1 hlength) hpositional
              cases h
              exact ⟨rfl, args, rfl, connectArgs_of_scanArguments hnetwork hcontainer hscan⟩
  · rintro ⟨rfl, args, rfl, hargs⟩
    obtain ⟨network, container, hscan, hnetwork, hcontainer⟩ := hargs.scanArguments
    have hpositional : checkPositional [network, container] networkConnectSchema.positional =
        .ok () := by
      simp [checkPositional, networkConnectSchema, hnetwork, hcontainer]
    have hlength : [network, container].length = networkConnectSchema.positional.length := rfl
    simp [commandValidator, resolveCommandSchema_networkConnect, hscan, hpositional, hlength]

theorem isAllowedCommand_iff {cmd : List String} :
    isAllowedCommand cmd = true ↔
      IsNetworkConnect (fun value => validateAlias value = .ok ()) cmd := by
  cases h : commandValidator cmd with
  | error e =>
      have hnot : ¬ IsNetworkConnect (fun value => validateAlias value = .ok ()) cmd := by
        intro hcmd
        cases h.symm.trans (commandValidator_eq_ok_iff.2 ⟨rfl, hcmd⟩)
      simp [isAllowedCommand, h, hnot, Except.isOk, Except.toBool]
  | ok cmd' =>
      simp [isAllowedCommand, h, (commandValidator_eq_ok_iff.1 h).2, Except.isOk, Except.toBool]

/-! ## Aliases with a line feed at their end -/

def chomp (value : String) : String :=
  if value.toList.getLast? = some '\n' then String.ofList value.toList.dropLast else value

/-- The command with such a line feed dropped from each alias. -/
def chompAliases : List String → List String
  | flag :: value :: args =>
      if flag = "--alias" then flag :: chomp value :: chompAliases args
      else flag :: chompAliases (value :: args)
  | args => args

theorem IsAlias.getLast?_ne {value : String} (h : IsAlias value) :
    value.toList.getLast? ≠ some '\n' := by
  intro hlast
  have hmem := List.mem_of_getLast? hlast
  unfold IsAlias matchesName at h
  split at h
  · cases h
  · rename_i c cs hvalue
    simp only [Bool.and_eq_true, List.all_eq_true] at h
    rw [hvalue] at hmem
    rcases List.mem_cons.1 hmem with rfl | hmem
    · exact absurd h.1.1 (by decide)
    · exact absurd (h.1.2 _ hmem) (by decide)

theorem IsAlias.chomp_eq {value : String} (h : IsAlias value) : chomp value = value :=
  if_neg h.getLast?_ne

theorem validateAlias_eq_ok_iff {value : String} :
    validateAlias value = .ok () ↔ IsAlias (chomp value) := by
  unfold validateAlias chomp
  by_cases hlast : value.toList.getLast? = some '\n'
  · have hnot : ¬ IsAlias value := fun h => h.getLast?_ne hlast
    simp only [IsAlias, Bool.not_eq_true] at hnot
    simp [hlast, hnot, IsAlias]
  · have hne : (value.toList.getLast? == some '\n') = false := beq_eq_false_iff_ne.2 hlast
    simp [hlast, hne, IsAlias]

theorem length_chompAliases (args : List String) : (chompAliases args).length = args.length := by
  fun_induction chompAliases args with
  | case1 value args ih => simp [ih]
  | case2 flag value args heq ih => simpa using ih
  | case3 args h => rfl

@[simp] theorem chompAliases_alias (value : String) (args : List String) :
    chompAliases ("--alias" :: value :: args) = "--alias" :: chomp value :: chompAliases args := by
  rw [chompAliases, if_pos rfl]

theorem chompAliases_cons {part : String} (h : part ≠ "--alias") (args : List String) :
    chompAliases (part :: args) = part :: chompAliases args := by
  cases args with
  | nil => rfl
  | cons value args => rw [chompAliases, if_neg h]

theorem eq_cons_of_chompAliases {args out : List String} {part : String}
    (h : chompAliases args = part :: out) (hpart : part ≠ "--alias") :
    ∃ rest, args = part :: rest ∧ chompAliases rest = out := by
  cases args with
  | nil => cases h
  | cons flag rest =>
      by_cases hflag : flag = "--alias"
      · subst hflag
        cases rest with
        | nil => cases h; exact absurd rfl hpart
        | cons value rest =>
            rw [chompAliases_alias] at h
            cases h
            exact absurd rfl hpart
      · rw [chompAliases_cons hflag] at h
        cases h
        exact ⟨rest, rfl, rfl⟩

theorem eq_cons_cons_of_chompAliases {args out : List String} {value : String}
    (h : chompAliases args = "--alias" :: value :: out) :
    ∃ value' rest, args = "--alias" :: value' :: rest ∧ value = chomp value' ∧
      chompAliases rest = out := by
  cases args with
  | nil => cases h
  | cons flag rest =>
      by_cases hflag : flag = "--alias"
      · subst hflag
        cases rest with
        | nil => cases h
        | cons value' rest =>
            rw [chompAliases_alias, List.cons.injEq, List.cons.injEq] at h
            exact ⟨value', rest, rfl, h.2.1.symm, h.2.2⟩
      · rw [chompAliases_cons hflag, List.cons.injEq] at h
        exact absurd h.1 hflag

theorem IsDockerName.ne_alias {name : String} (h : IsDockerName name) : name ≠ "--alias" := by
  rintro rfl
  exact absurd h (by decide)

theorem ne_alias_of_isIpAddress {value : String} (h : isIpAddress value = true) :
    value ≠ "--alias" := by
  rintro rfl
  exact absurd h (by decide)

theorem chompAliases_flag {flag value : String} (hflag : flag ≠ "--alias")
    (hvalue : isIpAddress value = true) (args : List String) :
    chompAliases (flag :: value :: args) = flag :: value :: chompAliases args := by
  rw [chompAliases_cons hflag, chompAliases_cons (ne_alias_of_isIpAddress hvalue)]

theorem chompAliases_names {network container : String} (hnetwork : IsDockerName network)
    (hcontainer : IsDockerName container) :
    chompAliases [network, container] = [network, container] := by
  rw [chompAliases_cons hnetwork.ne_alias, chompAliases_cons hcontainer.ne_alias]
  rfl

theorem eq_flag_of_chompAliases {args out : List String} {flag value : String}
    (h : chompAliases args = flag :: value :: out) (hflag : flag ≠ "--alias")
    (hvalue : isIpAddress value = true) :
    ∃ rest, args = flag :: value :: rest ∧ chompAliases rest = out := by
  obtain ⟨rest, rfl, hrest⟩ := eq_cons_of_chompAliases h hflag
  obtain ⟨args, rfl, hargs⟩ := eq_cons_of_chompAliases hrest (ne_alias_of_isIpAddress hvalue)
  exact ⟨args, rfl, hargs⟩

theorem eq_names_of_chompAliases {args : List String} {network container : String}
    (h : chompAliases args = [network, container]) (hnetwork : IsDockerName network)
    (hcontainer : IsDockerName container) : args = [network, container] := by
  obtain ⟨rest, rfl, hrest⟩ := eq_cons_of_chompAliases h hnetwork.ne_alias
  obtain ⟨rest, rfl, hnil⟩ := eq_cons_of_chompAliases hrest hcontainer.ne_alias
  have hnil : rest = [] := by
    rw [← List.length_eq_zero_iff, ← length_chompAliases, hnil, List.length_nil]
  rw [hnil]

/-- The arguments whose aliases pass are those that are of the grammar without the
line feeds. -/
theorem connectArgs_chompAliases_iff {args : List String} :
    ConnectArgs IsAlias (chompAliases args) ↔
      ConnectArgs (fun value => validateAlias value = .ok ()) args := by
  constructor
  · intro h
    generalize hout : chompAliases args = out at h
    induction h generalizing args with
    | names hnetwork hcontainer =>
        obtain rfl := eq_names_of_chompAliases hout hnetwork hcontainer
        exact .names hnetwork hcontainer
    | withAlias hvalue _ ih =>
        obtain ⟨value', rest, rfl, rfl, hrest⟩ := eq_cons_cons_of_chompAliases hout
        exact .withAlias (validateAlias_eq_ok_iff.2 hvalue) (ih hrest)
    | withIp hvalue _ ih =>
        obtain ⟨rest, rfl, hrest⟩ := eq_flag_of_chompAliases hout (by decide) hvalue
        exact .withIp hvalue (ih hrest)
    | withIp6 hvalue _ ih =>
        obtain ⟨rest, rfl, hrest⟩ := eq_flag_of_chompAliases hout (by decide) hvalue
        exact .withIp6 hvalue (ih hrest)
  · intro h
    induction h with
    | names hnetwork hcontainer =>
        rw [chompAliases_names hnetwork hcontainer]
        exact .names hnetwork hcontainer
    | withAlias hvalue _ ih =>
        rw [chompAliases_alias]
        exact .withAlias (validateAlias_eq_ok_iff.1 hvalue) ih
    | withIp hvalue _ ih =>
        rw [chompAliases_flag (by decide) hvalue]
        exact .withIp hvalue ih
    | withIp6 hvalue _ ih =>
        rw [chompAliases_flag (by decide) hvalue]
        exact .withIp6 hvalue ih

theorem ConnectArgs.chompAliases_eq {args : List String} (h : ConnectArgs IsAlias args) :
    chompAliases args = args := by
  induction h with
  | names hnetwork hcontainer => exact chompAliases_names hnetwork hcontainer
  | withAlias hvalue _ ih => rw [chompAliases_alias, hvalue.chomp_eq, ih]
  | withIp hvalue _ ih => rw [chompAliases_flag (by decide) hvalue, ih]
  | withIp6 hvalue _ ih => rw [chompAliases_flag (by decide) hvalue, ih]

theorem chompAliases_networkConnect (args : List String) :
    chompAliases ("network" :: "connect" :: args) =
      "network" :: "connect" :: chompAliases args := by
  rw [chompAliases_cons (by decide), chompAliases_cons (by decide)]

theorem isAllowedCommand_iff_chompAliases {cmd : List String} :
    isAllowedCommand cmd = true ↔ IsNetworkConnect IsAlias (chompAliases cmd) := by
  rw [isAllowedCommand_iff]
  constructor
  · rintro ⟨args, rfl, hargs⟩
    exact ⟨chompAliases args, chompAliases_networkConnect args,
      connectArgs_chompAliases_iff.2 hargs⟩
  · rintro ⟨out, hcmd, hout⟩
    obtain ⟨rest, rfl, hrest⟩ := eq_cons_of_chompAliases hcmd (by decide)
    obtain ⟨args, rfl, rfl⟩ := eq_cons_of_chompAliases hrest (by decide)
    exact ⟨args, rfl, connectArgs_chompAliases_iff.1 hout⟩

theorem IsNetworkConnect.chompAliases_eq {cmd : List String} (h : IsNetworkConnect IsAlias cmd) :
    chompAliases cmd = cmd := by
  obtain ⟨args, rfl, hargs⟩ := h
  rw [chompAliases_networkConnect, hargs.chompAliases_eq]

/-- The command passes if it is of the grammar, and raises an error if not. -/
def FollowsGrammar (cmd : List String) : Prop :=
  (commandValidator cmd = .ok cmd ↔ IsNetworkConnect IsAlias cmd) ∧
    (¬ IsNetworkConnect IsAlias cmd → ∃ e, commandValidator cmd = .error e)

theorem followsGrammar_iff_isAllowedCommand {cmd : List String} :
    FollowsGrammar cmd ↔ (isAllowedCommand cmd = true ↔ IsNetworkConnect IsAlias cmd) := by
  unfold FollowsGrammar isAllowedCommand
  cases h : commandValidator cmd with
  | error e => simp [Except.isOk, Except.toBool]
  | ok cmd' =>
      rw [(commandValidator_eq_ok_iff.1 h).1]
      simp [Except.isOk, Except.toBool]

/-- The validator follows the grammar but where an alias has a line feed at its end
and the command without it is of the grammar. -/
theorem followsGrammar_iff (cmd : List String) :
    FollowsGrammar cmd ↔
      (IsNetworkConnect IsAlias (chompAliases cmd) → chompAliases cmd = cmd) := by
  rw [followsGrammar_iff_isAllowedCommand, isAllowedCommand_iff_chompAliases]
  constructor
  · intro h hchomp
    exact (h.1 hchomp).chompAliases_eq
  · intro h
    constructor
    · intro hchomp
      rwa [h hchomp] at hchomp
    · intro hcmd
      rwa [hcmd.chompAliases_eq]

/-- An alias with a line feed passes. -/
theorem alias_with_line_feed_accepted :
    ¬ FollowsGrammar ["network", "connect", "--alias", "api\n", "net", "web"] := by
  rw [followsGrammar_iff_isAllowedCommand]
  intro h
  exact absurd (h.1 (by decide)).chompAliases_eq (by decide)

end Tugtainer
