import PasswordPolicy.Proofs.Fields.Override
import PasswordPolicy.Proofs.Unicode.LowerCase
import PasswordPolicy.Settings.Basic

/-!
# Variables of the settings

Only the name of a variable says what it is for. A setting has a plain and a prefixed variable, and
the policy has a variable for each of its fields besides. Whatever else is set does not matter, and
of two variables whose names differ in case only, the later one counts.

* **`Gives.ignoringCase?_eq`**: the value that the variables give to a name.
* **`policy?_eq_none`**, **`SetsOnly.policy?_eq`**: the policy by no variable for it, and by that of
  one field.
-/

namespace PasswordPolicy

/-! ### Merging with a text -/

namespace Value

@[simp] theorem merge_text (earlier : Value) (s : String) : earlier.merge (.text s) = .text s := by
  cases earlier <;> simp [merge]

/-- A record with one text merged into another puts this entry there. -/
theorem merge_record_singleton (old : Entries) (key : Scalar) (s : String) :
    (Value.record old).merge (.record [(key, .text s)]) = .record (old.put key (.text s)) := by
  rw [merge]
  simp only [List.attach_cons, List.foldl_cons, merge_text]
  cases Entries.get? old key <;> simp

end Value

namespace Environment

/-! ### The value of a name -/

/-- What the variables give to a name, in whatever case they write it: the last one counts. -/
inductive Gives (env : Environment) (name : String) : Option String → Prop
  | nothing (h : ∀ entry ∈ env, lowerName entry.1 ≠ name) : Gives env name none
  | value {front back : Environment} {written text : String}
      (hsplit : env = front ++ (written, text) :: back) (hname : lowerName written = name)
      (hlast : ∀ later ∈ back, lowerName later.1 ≠ name) : Gives env name (some text)

/-- The variable that counts is the last one of that name in any case of letters. The variables are
put into a table in their order, so a later one replaces an earlier one. -/
theorem Gives.ignoringCase?_eq {env : Environment} {name : String} {given : Option String}
    (h : Gives env name given) : env.ignoringCase? name = given := by
  unfold ignoringCase?
  rw [List.findRev?_eq_find?_reverse]
  cases h with
  | nothing h =>
    rw [Option.map_eq_none_iff, List.find?_eq_none]
    intro entry hentry
    have hne := h entry (List.mem_reverse.mp hentry)
    simpa using hne
  | @value front back written text hsplit hname hlast =>
    -- seen from the end, the variables behind the one that counts have other names
    have hfind : env.reverse.find? (fun entry => lowerName entry.1 == name) =
        some (written, text) := by
      rw [List.find?_eq_some_iff_append]
      refine ⟨by simpa using hname, back.reverse, front.reverse, by simp [hsplit], ?_⟩
      intro later hlater
      have hne := hlast later (List.mem_reverse.mp hlater)
      simpa using hne
    rw [hfind, Option.map_some]

/-! ### Names of variables -/

/-- The name of a variable for the specification. -/
def NamesRules (name : String) : Prop :=
  lowerName name = "rules" ∨ lowerName name = "password_rules_rules"

/-- The name of a variable for the whole policy, or of one for a part of it. -/
def NamesPolicy (name : String) : Prop :=
  lowerName name = "policy" ∨ lowerName name = "password_rules_policy" ∨
    "policy__".toList <+: (lowerName name).toList ∨
    "password_rules_policy__".toList <+: (lowerName name).toList

instance : DecidablePred NamesRules := fun _ => inferInstanceAs (Decidable (_ ∨ _))

instance : DecidablePred NamesPolicy := fun _ => inferInstanceAs (Decidable (_ ∨ _))

theorem toList_lowerName (name : String) :
    (lowerName name).toList = Unicode.lowerCase name.toList :=
  String.toList_ofList

theorem afterStart?_append (start rest : List Char) :
    afterStart? start (start ++ rest) = some rest := by
  have hstart : start.isPrefixOf (start ++ rest) = true :=
    List.isPrefixOf_iff_prefix.mpr (List.prefix_append start rest)
  rw [afterStart?, if_pos hstart, List.drop_left]

theorem afterStart?_eq_none {start text : List Char} (h : ¬ start <+: text) :
    afterStart? start text = none := by
  rw [afterStart?, if_neg (mt List.isPrefixOf_iff_prefix.mp h)]

/-- A variable that does not name the policy names no part of it. Its name does not begin with that
of the policy and a pair of underscores, with the prefix or without it. -/
theorem part?_eq_none {entry : String × String} (h : ¬ NamesPolicy entry.1) :
    part? "policy" entry = none := by
  unfold NamesPolicy at h
  rw [toList_lowerName] at h
  have hplain : ¬ "policy".toList ++ ['_', '_'] <+: Unicode.lowerCase entry.1.toList :=
    fun hstart => h (.inr (.inr (.inl hstart)))
  have hprefixed : ¬ namePrefix.toList ++ ("policy".toList ++ ['_', '_']) <+:
      Unicode.lowerCase entry.1.toList :=
    fun hstart => h (.inr (.inr (.inr hstart)))
  unfold part?
  simp only [afterStart?_eq_none hplain, afterStart?_eq_none hprefixed, Option.none_or,
    Option.map_none]

/-- Where no variable has one of its two names, the policy as a whole is not set. -/
theorem setting?_policy_eq_none {env : Environment}
    (h : ∀ entry ∈ env,
      lowerName entry.1 ≠ "policy" ∧ lowerName entry.1 ≠ "password_rules_policy") :
    env.setting? "policy" = none := by
  have hplain : Gives env "policy" none := .nothing fun entry hentry => (h entry hentry).1
  have hprefixed : Gives env (namePrefix ++ "policy") none :=
    .nothing fun entry hentry => (h entry hentry).2
  rw [setting?, hplain.ignoringCase?_eq, hprefixed.ignoringCase?_eq, Option.none_or]

/-- **Without a variable for it** the variables give no policy. -/
theorem policy?_eq_none {env : Environment} (h : ∀ entry ∈ env, ¬ NamesPolicy entry.1) :
    env.policy? = none := by
  have hwhole : env.setting? "policy" = none := by
    apply setting?_policy_eq_none
    intro entry hentry
    exact ⟨fun hname => h entry hentry (.inl hname),
      fun hname => h entry hentry (.inr (.inl hname))⟩
  have hparts : env.filterMap (part? "policy") = [] :=
    List.filterMap_eq_nil_iff.mpr fun entry hentry => part?_eq_none (h entry hentry)
  unfold policy?
  rw [hwhole, parts, hparts]
  rfl

/-- The rules are those of the plain name, or else those of the prefixed one. -/
theorem rules?_eq {env : Environment} {plain prefixed : Option String}
    (hplain : Gives env "rules" plain) (hprefixed : Gives env "password_rules_rules" prefixed) :
    env.rules? = (plain.or prefixed).map Value.text := by
  rw [rules?, setting?, hplain.ignoringCase?_eq,
    show namePrefix ++ "rules" = "password_rules_rules" from rfl, hprefixed.ignoringCase?_eq]

/-! ### The variable of one field -/

/-- A text without a pair of underscores is all one part. -/
theorem splitPairsFrom_eq (done : List Char) {text : List Char}
    (h : text.IsChain fun c d => c ≠ '_' ∨ d ≠ '_') :
    splitPairsFrom done text = [String.ofList (done.reverse ++ text)] := by
  fun_induction splitPairsFrom done text with
  | case1 done rest =>
    have hpair := (List.isChain_cons_cons.mp h).1
    simp at hpair
  | case2 done c rest _ ih =>
    rw [ih h.of_cons]
    simp
  | case3 done => simp

/-- The lower-case form of an ASCII name, which stays as it is when it is lowered again. -/
theorem lowerName_of_ascii {name : String} (h : ∀ c ∈ name.toList, c.toNat < 128) :
    lowerName name = String.ofList (name.toList.map Char.toLower) ∧
      lowerName (lowerName name) = lowerName name := by
  -- of each ASCII character this can be computed
  have hlowered (c : Char) (hc : c ∈ name.toList) :
      c.toLower.toNat < 128 ∧ c.toLower.toLower = c.toLower :=
    Unicode.forall_ascii (P := fun c => c.toLower.toNat < 128 ∧ c.toLower.toLower = c.toLower)
      (by decide) (h c hc)
  have hname : lowerName name = String.ofList (name.toList.map Char.toLower) := by
    rw [lowerName, Unicode.lowerCase_of_ascii h]
  refine ⟨hname, ?_⟩
  rw [hname, lowerName, String.toList_ofList, Unicode.lowerCase_of_ascii, List.map_map]
  · refine congrArg String.ofList (List.map_congr_left fun c hc => ?_)
    exact (hlowered c hc).2
  · intro c hc
    obtain ⟨d, hd, rfl⟩ := List.mem_map.mp hc
    exact (hlowered d hd).1

end Environment

namespace Kind

theorem Named.ascii {k : Kind} {name : String} (h : k.Named name) :
    ∀ c ∈ name.toList, c.toNat < 128 := by
  have hlabel : (k.label.toList.all fun c => c.toNat < 128) = true := by cases k <;> rfl
  have hkey : (k.key.toList.all fun c => c.toNat < 128) = true := by cases k <;> rfl
  rcases h with rfl | rfl
  · simpa using List.all_eq_true.mp hlabel
  · simpa using List.all_eq_true.mp hkey

theorem label_injective_of_lowered {k l : Kind}
    (h : k.label.toList.map Char.toLower = l.label.toList.map Char.toLower) : k = l := by
  revert h
  cases k <;> cases l <;> decide

theorem underscore_notMem_label (k : Kind) : '_' ∉ k.label.toList.map Char.toLower := by
  cases k <;> decide

theorem underscore_mem_key (k : Kind) : '_' ∈ k.key.toList.map Char.toLower := by
  cases k <;> decide

theorem toLower_key (k : Kind) : k.key.toList.map Char.toLower = k.key.toList := by
  cases k <;> decide

/-- The name of a field holds no pair of underscores. -/
theorem Named.isChain {k : Kind} {name : String} (h : k.Named name) :
    (name.toList.map Char.toLower).IsChain fun c d => c ≠ '_' ∨ d ≠ '_' := by
  rcases h with rfl | rfl
  · cases k <;> decide
  · cases k <;> decide

end Kind

namespace Environment

variable {k : Kind} {name : String}

/-- The name of a field that was lowered is known again. The label is told by its small letters, and
the key is in small letters anyway. -/
theorem fieldName_lowerName (h : k.Named name) :
    fieldName (.text (lowerName name)) = .text name := by
  have hlabel (l : Kind) : lowerName l.label = String.ofList (l.label.toList.map Char.toLower) := by
    have hl : l.Named l.label := .inl rfl
    exact (lowerName_of_ascii hl.ascii).1
  obtain ⟨hname, hagain⟩ := lowerName_of_ascii h.ascii
  have hmatch (l : Kind) : (lowerName l.label == lowerName (lowerName name)) = true ↔
      l.label.toList.map Char.toLower = name.toList.map Char.toLower := by
    rw [hagain, hname, hlabel, beq_iff_eq, String.ofList_inj]
  unfold fieldName
  simp only
  cases hfind : Kind.all.find? fun l => lowerName l.label == lowerName (lowerName name) with
  | none =>
    simp only
    have hnone := List.find?_eq_none.mp hfind k (Kind.mem_all k)
    rw [hmatch] at hnone
    rcases h with rfl | rfl
    · exact absurd rfl hnone
    · rw [hname, Kind.toLower_key, String.ofList_toList]
  | some l =>
    simp only
    have hl := List.find?_some hfind
    rw [hmatch] at hl
    rcases h with rfl | rfl
    · rw [Kind.label_injective_of_lowered hl]
    · -- a key holds an underscore and a label does not
      have hmem := Kind.underscore_mem_key k
      rw [← hl] at hmem
      exact absurd hmem (Kind.underscore_notMem_label l)

/-- A variable for one field gives the field under the name that it is written with. -/
theorem part?_of_named (h : k.Named name) {written text : String}
    (hwritten : lowerName written = "password_rules_policy__" ++ lowerName name) :
    part? "policy" (written, text) = some (.object [(lowerName name, .text text)]) := by
  have hlower : Unicode.lowerCase written.toList =
      (namePrefix.toList ++ ("policy".toList ++ ['_', '_'])) ++ (lowerName name).toList := by
    rw [← toList_lowerName, hwritten, String.toList_append]
    rfl
  have hplain : ¬ "policy".toList ++ ['_', '_'] <+: Unicode.lowerCase written.toList := by
    rw [hlower]
    rintro ⟨rest, hrest⟩
    -- the second letter of the prefix tells the two apart
    exact absurd (congrArg (·[1]?) hrest) (by simp [namePrefix])
  have hsplit : splitPairsFrom [] (lowerName name).toList = [lowerName name] := by
    rw [(lowerName_of_ascii h.ascii).1, String.toList_ofList, splitPairsFrom_eq [] h.isChain]
    rfl
  unfold part?
  simp only [afterStart?_eq_none hplain, Option.none_or]
  rw [hlower, afterStart?_append, Option.map_some, hsplit]
  rfl

/-- Of all the variables, this one alone is for the settings. -/
def SetsOnly (env : Environment) (written text : String) : Prop :=
  ∃ front back, env = front ++ (written, text) :: back ∧
    ∀ entry ∈ front ++ back, ¬ NamesRules entry.1 ∧ ¬ NamesPolicy entry.1

variable {env : Environment} {written text : String}

/-- What holds of that name, and of all names that are for no setting, holds of every variable. -/
theorem SetsOnly.forall_mem {P : String → Prop} (honly : SetsOnly env written text)
    (hwritten : P written) (hothers : ∀ name, ¬ NamesRules name → ¬ NamesPolicy name → P name) :
    ∀ entry ∈ env, P entry.1 := by
  obtain ⟨front, back, rfl, hnone⟩ := honly
  have hother (entry : String × String) (hentry : entry ∈ front ++ back) : P entry.1 :=
    hothers entry.1 (hnone entry hentry).1 (hnone entry hentry).2
  intro entry hentry
  rw [List.mem_append, List.mem_cons] at hentry
  rcases hentry with hfront | rfl | hback
  · exact hother entry (List.mem_append_left _ hfront)
  · exact hwritten
  · exact hother entry (List.mem_append_right _ hback)

/-- The name of a variable for a field is longer than that of one for a whole setting. -/
theorem lowerName_ne_of_named
    (hwritten : lowerName written = "password_rules_policy__" ++ lowerName name) {short : String}
    (hshort : short.length ≤ 22) : lowerName written ≠ short := by
  intro hname
  have hlength := congrArg String.length hwritten
  rw [hname, String.length_append, show "password_rules_policy__".length = 23 from rfl] at hlength
  omega

/-- Where the only variable is for a part of the policy, no rules are set. -/
theorem SetsOnly.rules?_eq_none (honly : SetsOnly env written text)
    (hwritten : lowerName written = "password_rules_policy__" ++ lowerName name) :
    env.rules? = none := by
  have hrules : ¬ NamesRules written := by
    rintro (hrules | hrules)
    · exact lowerName_ne_of_named hwritten (by decide) hrules
    · exact lowerName_ne_of_named hwritten (by decide) hrules
  have hname : ∀ entry ∈ env, ¬ NamesRules entry.1 := honly.forall_mem hrules fun _ h _ => h
  have hplain : Gives env "rules" none :=
    .nothing fun entry hentry hrules => hname entry hentry (.inl hrules)
  have hprefixed : Gives env "password_rules_rules" none :=
    .nothing fun entry hentry hrules => hname entry hentry (.inr hrules)
  rw [rules?_eq hplain hprefixed]
  rfl

/-- **The variable of one field**, alone, gives the policy a record of this field. There is no
variable for the policy as a whole, so the record has this entry only. -/
theorem SetsOnly.policy?_eq (h : k.Named name) (honly : SetsOnly env written text)
    (hwritten : lowerName written = "password_rules_policy__" ++ lowerName name) :
    env.policy? = some (.record [(.text name, .text text)]) := by
  obtain ⟨front, back, rfl, hothers⟩ := honly
  have hfront (entry : String × String) (hentry : entry ∈ front) : ¬ NamesPolicy entry.1 :=
    (hothers entry (List.mem_append_left _ hentry)).2
  have hback (entry : String × String) (hentry : entry ∈ back) : ¬ NamesPolicy entry.1 :=
    (hothers entry (List.mem_append_right _ hentry)).2
  -- the policy is not set as a whole, since the variable names a part of it
  have hwhole : setting? (front ++ (written, text) :: back) "policy" = none := by
    have honly : SetsOnly (front ++ (written, text) :: back) written text :=
      ⟨front, back, rfl, hothers⟩
    refine setting?_policy_eq_none (honly.forall_mem
      (P := fun name => lowerName name ≠ "policy" ∧ lowerName name ≠ "password_rules_policy")
      ⟨?_, ?_⟩ fun name _ hpolicy => ⟨fun hname => hpolicy (.inl hname),
        fun hname => hpolicy (.inr (.inl hname))⟩)
    · exact lowerName_ne_of_named hwritten (by decide)
    · exact lowerName_ne_of_named hwritten (by decide)
  -- of the parts there is this one only
  have hparts : parts (front ++ (written, text) :: back) "policy" =
      .object [(lowerName name, .text text)] := by
    rw [parts, List.filterMap_append, List.filterMap_cons_some (part?_of_named h hwritten),
      List.filterMap_eq_nil_iff.mpr fun entry hentry => part?_eq_none (hfront entry hentry),
      List.filterMap_eq_nil_iff.mpr fun entry hentry => part?_eq_none (hback entry hentry)]
    exact Value.merge_record_singleton [] _ _
  unfold policy?
  rw [hwhole, hparts]
  show some (Value.record [(fieldName (.text (lowerName name)), .text text)]) = _
  rw [fieldName_lowerName h]

end Environment

end PasswordPolicy
