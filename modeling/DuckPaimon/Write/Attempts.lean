/-
The attempt ids of Vane tasks (paimon_distributed_insert.cpp): which texts are accepted, what the
identity of a logical task determines, and that the names derived from an attempt are its own.
-/
import DuckPaimon.Lib.Decimal
import DuckPaimon.Write.Transport

namespace DuckPaimon.Write

open Outcome Decimal

/-! ## The grammar -/

/-- An attempt id `query.fragment.partition.attempt`, the last three in canonical decimal. -/
structure IsAttemptId (queryId taskAttemptId : String) (fragment partition attempt : List Char) : Prop where
  query_ne : queryId ≠ ""
  fragment_numeral : Numeral fragment
  partition_numeral : Numeral partition
  attempt_numeral : Numeral attempt
  text : taskAttemptId = attemptId queryId fragment partition attempt

/-- The identity of the task an attempt belongs to. -/
def logicalTaskId (queryId : String) (fragment partition : List Char) : String :=
  queryId ++ "." ++ String.ofList fragment ++ "." ++ String.ofList partition

theorem validateVaneTaskIdentityComponent_eq_ok {component : List Char} {description : String} {u : Unit} :
    validateVaneTaskIdentityComponent component description = .ok u ↔ Numeral component := by
  have hdigits : component.all characterIsDigit = true ↔ ∀ c ∈ component, c.isDigit = true := List.all_eq_true
  unfold validateVaneTaskIdentityComponent
  cases component with
  | nil => exact ⟨nofun, fun h => absurd rfl h.ne_nil⟩
  | cons first rest =>
    split
    · rename_i hguard
      refine ⟨nofun, fun h => ?_⟩
      obtain ⟨hrest, rfl⟩ : rest ≠ [] ∧ first = '0' := by simpa [List.length_pos_iff] using hguard
      exact absurd (h.leading rest rfl) hrest
    · rename_i hguard
      have hleading : rest ≠ [] → first ≠ '0' := by simpa [List.length_pos_iff] using hguard
      split
      · rename_i hall
        refine ⟨fun _ => ⟨List.cons_ne_nil _ _, hdigits.1 hall, fun rest' heq => ?_⟩, fun _ => rfl⟩
        obtain ⟨hfirst, rfl⟩ := List.cons.inj heq
        by_contra hne
        exact hleading hne hfirst
      · rename_i hall
        exact ⟨nofun, fun h => absurd (hdigits.2 h.digits) hall⟩

/-- What stands behind the query id and its separator. -/
theorem toList_attemptId (queryId : String) (fragment partition attempt : List Char) :
    (attemptId queryId fragment partition attempt).toList =
      queryId.toList ++ '.' :: (fragment ++ '.' :: (partition ++ '.' :: attempt)) := by
  simp [attemptId, String.toList_append]

/-- The texts that are accepted: the attempt ids, and these with a separator behind them. -/
theorem vaneLogicalTaskIdentity_eq_ok {queryId taskAttemptId identity : String} :
    vaneLogicalTaskIdentity queryId taskAttemptId = .ok identity ↔
      ∃ text fragment partition attempt, IsAttemptId queryId text fragment partition attempt ∧
        (taskAttemptId = text ∨ taskAttemptId = text ++ ".") ∧
        identity = logicalTaskId queryId fragment partition := by
  have hleading : (queryId ++ ".").toList = queryId.toList ++ ['.'] := by simp [String.toList_append]
  unfold vaneLogicalTaskIdentity
  dsimp only
  constructor
  · intro h
    split at h
    · cases h
    rename_i hguard
    rw [Bool.or_eq_true, not_or, Bool.not_eq_true', Bool.not_eq_false, List.isPrefixOf_iff_prefix] at hguard
    obtain ⟨tail, htail⟩ := hguard.2
    have hdrop : taskAttemptId.toList.drop (queryId ++ ".").length = tail := by
      rw [← htail, ← String.length_toList, List.drop_left]
    rw [hdrop] at h
    split at h
    · rename_i fragment partition attempt hpieces
      obtain ⟨_, hfragment, h⟩ := bind_eq_ok.1 h
      obtain ⟨_, hpartition, h⟩ := bind_eq_ok.1 h
      obtain ⟨_, hattempt, h⟩ := bind_eq_ok.1 h
      rw [validateVaneTaskIdentityComponent_eq_ok] at hfragment hpartition hattempt
      -- the pieces before the last are free of separators, the last may have lost one at its end
      obtain ⟨rest, rfl, hrest⟩ := Getline.pieces_eq_cons hpieces (List.cons_ne_nil _ _)
      obtain ⟨rest', rfl, hrest'⟩ := Getline.pieces_eq_cons hrest (List.cons_ne_nil _ _)
      obtain ⟨-, hlast⟩ := Getline.pieces_eq_singleton.1 hrest'
      have hquery : queryId ≠ "" := by
        rintro rfl
        exact hguard.1 rfl
      refine ⟨attemptId queryId fragment partition attempt, fragment, partition, attempt,
        ⟨hquery, hfragment, hpartition, hattempt, rfl⟩, ?_, (pure_eq_ok.1 h).symm⟩
      rw [← String.toList_inj, ← String.toList_inj, String.toList_append, toList_attemptId, ← htail, hleading]
      rcases hlast with ⟨rfl, -⟩ | rfl
      · exact .inl (by simp)
      · exact .inr (by simp)
    · cases h
  · rintro ⟨text, fragment, partition, attempt, ⟨hquery, hfragment, hpartition, hattempt, rfl⟩, htext, rfl⟩
    obtain ⟨rest, hrest, htail⟩ : ∃ rest, Getline.pieces '.' rest = [attempt] ∧ taskAttemptId.toList =
        (queryId ++ ".").toList ++ (fragment ++ '.' :: (partition ++ '.' :: rest)) := by
      rcases htext with rfl | rfl
      · refine ⟨attempt, Getline.pieces_eq_singleton.2 ⟨hattempt.not_mem rfl, .inl ⟨rfl, hattempt.ne_nil⟩⟩, ?_⟩
        rw [toList_attemptId, hleading]
        simp
      · refine ⟨attempt ++ ['.'], Getline.pieces_eq_singleton.2 ⟨hattempt.not_mem rfl, .inr rfl⟩, ?_⟩
        rw [String.toList_append, toList_attemptId, hleading]
        simp
    have hdrop : taskAttemptId.toList.drop (queryId ++ ".").length = fragment ++ '.' :: (partition ++ '.' :: rest) := by
      rw [htail, ← String.length_toList, List.drop_left]
    have hstarts : (queryId ++ ".").toList.isPrefixOf taskAttemptId.toList = true := by
      rw [List.isPrefixOf_iff_prefix, htail]
      exact List.prefix_append _ _
    have hempty : queryId.isEmpty = false := by simpa using hquery
    rw [hstarts, hempty, if_neg (by simp), hdrop, Getline.pieces_append (hfragment.not_mem rfl),
      Getline.pieces_append (hpartition.not_mem rfl), hrest]
    exact bind_eq_ok.2 ⟨(), validateVaneTaskIdentityComponent_eq_ok.2 hfragment,
      bind_eq_ok.2 ⟨(), validateVaneTaskIdentityComponent_eq_ok.2 hpartition,
        bind_eq_ok.2 ⟨(), validateVaneTaskIdentityComponent_eq_ok.2 hattempt, rfl⟩⟩⟩

/-! ## What an attempt id determines -/

/-- The last three components of a text, and what stands in front of them. -/
theorem components_inj {front front' fragment fragment' partition partition' attempt attempt' : List Char}
    (hfragment : Numeral fragment) (hfragment' : Numeral fragment') (hpartition : Numeral partition)
    (hpartition' : Numeral partition') (hattempt : Numeral attempt) (hattempt' : Numeral attempt')
    (h : front ++ '.' :: (fragment ++ '.' :: (partition ++ '.' :: attempt)) =
      front' ++ '.' :: (fragment' ++ '.' :: (partition' ++ '.' :: attempt'))) :
    front = front' ∧ fragment = fragment' ∧ partition = partition' ∧ attempt = attempt' := by
  have hlast : ((front ++ '.' :: fragment) ++ '.' :: partition) ++ '.' :: attempt =
      ((front' ++ '.' :: fragment') ++ '.' :: partition') ++ '.' :: attempt' := by
    simpa only [List.append_assoc, List.cons_append] using h
  obtain ⟨hrest, rfl⟩ := Getline.append_cons_inj (hattempt.not_mem rfl) (hattempt'.not_mem rfl) hlast
  obtain ⟨hfirst, rfl⟩ := Getline.append_cons_inj (hpartition.not_mem rfl) (hpartition'.not_mem rfl) hrest
  obtain ⟨rfl, rfl⟩ := Getline.append_cons_inj (hfragment.not_mem rfl) (hfragment'.not_mem rfl) hfirst
  exact ⟨rfl, rfl, rfl, rfl⟩

/-- A text that ends in a separator does not end in a number. -/
theorem components_ne_separator {text front attempt : List Char} (hattempt : Numeral attempt) :
    text ++ ['.'] ≠ front ++ '.' :: attempt := by
  intro h
  obtain ⟨-, hnil⟩ := Getline.append_cons_inj List.not_mem_nil (hattempt.not_mem rfl) h
  exact hattempt.ne_nil hnil.symm

section IsAttemptId

variable {queryId taskAttemptId : String} {fragment fragment' partition partition' attempt : List Char}

theorem IsAttemptId.ne_separator (h : IsAttemptId queryId taskAttemptId fragment partition attempt) (text : String) :
    text ++ "." ≠ taskAttemptId := by
  intro htext
  rw [h.text, ← String.toList_inj, String.toList_append, toList_attemptId] at htext
  have hlast : text.toList ++ ['.'] = (queryId.toList ++ '.' :: fragment ++ '.' :: partition) ++ '.' :: attempt := by
    have hdot : (".").toList = ['.'] := rfl
    simpa only [List.append_assoc, List.cons_append, hdot] using htext
  exact components_ne_separator h.attempt_numeral hlast

/-- The identity of a task tells its fragment execution and its partition. -/
theorem logicalTaskId_inj (hfragment : Numeral fragment) (hfragment' : Numeral fragment')
    (hpartition : Numeral partition) (hpartition' : Numeral partition') :
    logicalTaskId queryId fragment partition = logicalTaskId queryId fragment' partition' ↔
      fragment = fragment' ∧ partition = partition' := by
  constructor
  · intro h
    have htext : (queryId.toList ++ '.' :: fragment) ++ '.' :: partition =
        (queryId.toList ++ '.' :: fragment') ++ '.' :: partition' := by
      simpa [logicalTaskId, String.toList_append] using congrArg String.toList h
    obtain ⟨hrest, rfl⟩ := Getline.append_cons_inj (hpartition.not_mem rfl) (hpartition'.not_mem rfl) htext
    exact ⟨(Getline.append_cons_inj (hfragment.not_mem rfl) (hfragment'.not_mem rfl) hrest).2, rfl⟩
  · rintro ⟨rfl, rfl⟩
    rfl

end IsAttemptId

/-! ## The parser against the grammar -/

/-- An attempt id is accepted exactly if it is in the grammar, and read as its task. -/
def ReadsGrammar (queryId taskAttemptId : String) : Prop :=
  ∀ identity, vaneLogicalTaskIdentity queryId taskAttemptId = .ok identity ↔
    ∃ fragment partition attempt, IsAttemptId queryId taskAttemptId fragment partition attempt ∧
      identity = logicalTaskId queryId fragment partition

/-- Two accepted attempts are of one task exactly if their fragment executions and partitions agree,
and then differ in their attempt numbers if they differ at all. -/
def TellsApart (queryId taskAttemptId taskAttemptId' : String) : Prop :=
  ∀ identity identity' fragment partition attempt fragment' partition' attempt',
    vaneLogicalTaskIdentity queryId taskAttemptId = .ok identity →
    vaneLogicalTaskIdentity queryId taskAttemptId' = .ok identity' →
    IsAttemptId queryId taskAttemptId fragment partition attempt →
    IsAttemptId queryId taskAttemptId' fragment' partition' attempt' →
      (identity = identity' ↔ fragment = fragment' ∧ partition = partition') ∧
        (taskAttemptId ≠ taskAttemptId' → fragment = fragment' → partition = partition' → attempt ≠ attempt')

/-- An attempt id with a separator behind it. -/
def TrailingSeparator (queryId taskAttemptId : String) : Prop :=
  ∃ text fragment partition attempt, IsAttemptId queryId text fragment partition attempt ∧ taskAttemptId = text ++ "."

theorem readsGrammar_iff (queryId taskAttemptId : String) :
    ReadsGrammar queryId taskAttemptId ↔ ¬TrailingSeparator queryId taskAttemptId := by
  constructor
  · rintro hreads ⟨text, fragment, partition, attempt, hid, rfl⟩
    have haccepted := vaneLogicalTaskIdentity_eq_ok.2 ⟨text, fragment, partition, attempt, hid, .inr rfl, rfl⟩
    obtain ⟨_, _, _, hid', -⟩ := (hreads _).1 haccepted
    exact hid'.ne_separator text rfl
  · intro htrailing identity
    rw [vaneLogicalTaskIdentity_eq_ok]
    constructor
    · rintro ⟨text, fragment, partition, attempt, hid, rfl | rfl, hidentity⟩
      · exact ⟨fragment, partition, attempt, hid, hidentity⟩
      · exact absurd ⟨text, fragment, partition, attempt, hid, rfl⟩ htrailing
    · rintro ⟨fragment, partition, attempt, hid, hidentity⟩
      exact ⟨taskAttemptId, fragment, partition, attempt, hid, .inl rfl, hidentity⟩

theorem tellsApart (queryId taskAttemptId taskAttemptId' : String) :
    TellsApart queryId taskAttemptId taskAttemptId' := by
  have hidentity {taskAttemptId identity : String} {fragment partition attempt : List Char}
      (hok : vaneLogicalTaskIdentity queryId taskAttemptId = .ok identity)
      (hid : IsAttemptId queryId taskAttemptId fragment partition attempt) :
      identity = logicalTaskId queryId fragment partition := by
    have hread := vaneLogicalTaskIdentity_eq_ok.2 ⟨_, fragment, partition, attempt, hid, .inl rfl, rfl⟩
    exact Except.ok.inj (hok.symm.trans hread)
  intro identity identity' fragment partition attempt fragment' partition' attempt' hok hok' hid hid'
  constructor
  · rw [hidentity hok hid, hidentity hok' hid']
    exact logicalTaskId_inj hid.fragment_numeral hid'.fragment_numeral hid.partition_numeral hid'.partition_numeral
  · rintro hne rfl rfl rfl
    exact hne (hid.text.trans hid'.text.symm)

/-- The parser reads two attempt ids by their grammar exactly if neither is one with a separator
behind it: the splitter yields no piece behind a trailing separator. -/
theorem attempt_grammar_iff (queryId taskAttemptId taskAttemptId' : String) :
    (ReadsGrammar queryId taskAttemptId ∧ ReadsGrammar queryId taskAttemptId' ∧
        TellsApart queryId taskAttemptId taskAttemptId') ↔
      ¬TrailingSeparator queryId taskAttemptId ∧ ¬TrailingSeparator queryId taskAttemptId' := by
  rw [readsGrammar_iff, readsGrammar_iff]
  constructor
  · rintro ⟨h, h', -⟩
    exact ⟨h, h'⟩
  · rintro ⟨h, h'⟩
    exact ⟨h, h', tellsApart queryId taskAttemptId taskAttemptId'⟩

theorem attempt_grammar_trailing_separator :
    vaneLogicalTaskIdentity "q" "q.0.0.0." = .ok "q.0.0" ∧ ¬ReadsGrammar "q" "q.0.0.0." := by
  have hzero : Numeral ['0'] := ⟨nofun, by simp, by simp⟩
  refine ⟨rfl, fun hreads => (readsGrammar_iff _ _).1 hreads ?_⟩
  exact ⟨"q.0.0.0", ['0'], ['0'], ['0'], ⟨by decide, hzero, hzero, hzero, rfl⟩, rfl⟩

/-! ## Names derived from an attempt -/

/-- A text is determined by where it has dashes and by what it has between them. -/
theorem eq_of_compact_eq {cs cs' : List Char} (hdashes : cs.map (· == '-') = cs'.map (· == '-'))
    (hcompact : cs.filter (· ≠ '-') = cs'.filter (· ≠ '-')) : cs = cs' := by
  induction cs generalizing cs' with
  | nil => exact (List.map_eq_nil_iff.1 hdashes.symm).symm
  | cons c cs ih =>
    cases cs' with
    | nil => cases hdashes
    | cons c' cs' =>
      rw [List.map_cons, List.map_cons] at hdashes
      obtain ⟨hc, hrest⟩ := List.cons.inj hdashes
      by_cases hdash : c = '-'
      · obtain rfl : c' = '-' := by
          rw [hdash, beq_self_eq_true] at hc
          exact beq_iff_eq.1 hc.symm
        rw [hdash, List.filter_cons_of_neg (by simp), List.filter_cons_of_neg (by simp)] at hcompact
        rw [hdash, ih hrest hcompact]
      · have hdash' : c' ≠ '-' := by
          rintro rfl
          rw [beq_self_eq_true] at hc
          exact hdash (beq_iff_eq.1 hc)
        rw [List.filter_cons_of_pos (by simpa using hdash), List.filter_cons_of_pos (by simpa using hdash')] at hcompact
        obtain ⟨rfl, hfilter⟩ := List.cons.inj hcompact
        rw [ih hrest hfilter]

/-- What is hashed of an attempt: its query, a NUL byte and its id. -/
def digestInput (task : DistributedWriteTaskContext) : String :=
  task.queryId ++ String.singleton (Char.ofNat 0) ++ task.taskAttemptId

/-- The UUIDs a runtime accepts have their dashes at the standard positions. -/
def Runtime.StandardDashes (rt : Runtime) : Prop :=
  ∀ value, isCanonicalUUID rt value = true → ∀ i : Nat, value.toList[i]? = some '-' ↔ i ∈ [8, 13, 18, 23]

/-- The hash tells two inputs apart. -/
def Runtime.NoCollision (rt : Runtime) (input input' : String) : Prop :=
  rt.md5Hex input = rt.md5Hex input' → input = input'

section Names

variable {rt : Runtime} {operationId operationId' : String} {task task' : DistributedWriteTaskContext}

theorem length_of_isCanonicalUUID (h : isCanonicalUUID rt operationId = true) : operationId.toList.length = 36 := by
  rw [isCanonicalUUID, Bool.and_eq_true, beq_iff_eq] at h
  exact h.1

/-- Accepted UUIDs have their dashes at the same places. -/
theorem dashes_eq (hdashes : Runtime.StandardDashes rt) (h : isCanonicalUUID rt operationId = true)
    (h' : isCanonicalUUID rt operationId' = true) :
    operationId.toList.map (· == '-') = operationId'.toList.map (· == '-') := by
  have hlength : operationId.toList.length = operationId'.toList.length :=
    (length_of_isCanonicalUUID h).trans (length_of_isCanonicalUUID h').symm
  apply List.ext_getElem
  · rw [List.length_map, List.length_map, hlength]
  · intro i hi hi'
    rw [List.length_map] at hi hi'
    have hdash := hdashes operationId h i
    rw [← hdashes operationId' h' i, List.getElem?_eq_getElem hi, List.getElem?_eq_getElem hi', Option.some_inj,
      Option.some_inj] at hdash
    rw [List.getElem_map, List.getElem_map]
    rw [Bool.eq_iff_iff, beq_iff_eq, beq_iff_eq]
    exact hdash

theorem compactUUID_inj (hdashes : Runtime.StandardDashes rt) (h : isCanonicalUUID rt operationId = true)
    (h' : isCanonicalUUID rt operationId' = true) (hcompact : compactUUID operationId = compactUUID operationId') :
    operationId = operationId' := by
  rw [compactUUID, compactUUID, String.ofList_inj] at hcompact
  exact String.toList_inj.1 (eq_of_compact_eq (dashes_eq hdashes h h') hcompact)

/-- The number of characters between the dashes depends on where the dashes are. -/
theorem length_compactUUID (hdashes : Runtime.StandardDashes rt) (h : isCanonicalUUID rt operationId = true)
    (h' : isCanonicalUUID rt operationId' = true) :
    (compactUUID operationId).toList.length = (compactUUID operationId').toList.length := by
  have hcount (value : String) :
      (compactUUID value).toList.length = (value.toList.map (· == '-')).countP (· == false) := by
    rw [compactUUID, String.toList_ofList, ← List.countP_eq_length_filter, List.countP_map]
    apply List.countP_congr
    intro c _
    simp
  rw [hcount, hcount, dashes_eq hdashes h h']

/-- What is hashed of an accepted attempt: its query id twice, its three numbers, and a separator that
may stand behind them. -/
theorem toList_digestInput {identity : String}
    (htask : vaneLogicalTaskIdentity task.queryId task.taskAttemptId = .ok identity) :
    ∃ fragment partition attempt trailing, Numeral fragment ∧ Numeral partition ∧ Numeral attempt ∧
      (trailing = [] ∨ trailing = ['.']) ∧
      task.taskAttemptId.toList =
        task.queryId.toList ++ '.' :: (fragment ++ '.' :: (partition ++ '.' :: attempt)) ++ trailing ∧
      (digestInput task).toList = (task.queryId.toList ++ Char.ofNat 0 :: task.queryId.toList) ++
        '.' :: (fragment ++ '.' :: (partition ++ '.' :: attempt)) ++ trailing := by
  obtain ⟨text, fragment, partition, attempt, hid, htext, -⟩ := vaneLogicalTaskIdentity_eq_ok.1 htask
  have hinput : (digestInput task).toList = task.queryId.toList ++ Char.ofNat 0 :: task.taskAttemptId.toList := by
    simp [digestInput, String.toList_append]
  obtain ⟨trailing, htrailing, hattempt⟩ : ∃ trailing : List Char, (trailing = [] ∨ trailing = ['.']) ∧
      task.taskAttemptId.toList =
        task.queryId.toList ++ '.' :: (fragment ++ '.' :: (partition ++ '.' :: attempt)) ++ trailing := by
    rcases htext with htext | htext
    · refine ⟨[], .inl rfl, ?_⟩
      rw [htext, hid.text, toList_attemptId, List.append_nil]
    · refine ⟨['.'], .inr rfl, ?_⟩
      rw [htext, hid.text, String.toList_append, toList_attemptId]
      rfl
  refine ⟨fragment, partition, attempt, trailing, hid.fragment_numeral, hid.partition_numeral, hid.attempt_numeral,
    htrailing, hattempt, ?_⟩
  rw [hinput, hattempt]
  simp only [List.append_assoc, List.cons_append]

/-- An accepted attempt is told by what is hashed of it: behind its last separator stands a number or
nothing, and its query id stands in it twice. -/
theorem digestInput_inj {identity identity' : String}
    (htask : vaneLogicalTaskIdentity task.queryId task.taskAttemptId = .ok identity)
    (htask' : vaneLogicalTaskIdentity task'.queryId task'.taskAttemptId = .ok identity')
    (h : digestInput task = digestInput task') :
    task.queryId = task'.queryId ∧ task.taskAttemptId = task'.taskAttemptId := by
  obtain ⟨fragment, partition, attempt, trailing, hfragment, hpartition, hattempt, htrailing, hid, hinput⟩ :=
    toList_digestInput htask
  obtain ⟨fragment', partition', attempt', trailing', hfragment', hpartition', hattempt', htrailing', hid', hinput'⟩ :=
    toList_digestInput htask'
  have heq := hinput.symm.trans ((congrArg String.toList h).trans hinput')
  -- the hashed texts end alike
  have hmixed {front front' fragment fragment' partition partition' attempt attempt' : List Char}
      (hattempt' : Numeral attempt') :
      front ++ '.' :: (fragment ++ '.' :: (partition ++ '.' :: attempt)) ++ ['.'] ≠
        front' ++ '.' :: (fragment' ++ '.' :: (partition' ++ '.' :: attempt')) := by
    intro heq
    have hlast : front' ++ '.' :: (fragment' ++ '.' :: (partition' ++ '.' :: attempt')) =
        (front' ++ '.' :: fragment' ++ '.' :: partition') ++ '.' :: attempt' := by
      simp only [List.append_assoc, List.cons_append]
    exact components_ne_separator hattempt' (heq.trans hlast)
  have hsame : trailing = trailing' := by
    rcases htrailing with rfl | rfl <;> rcases htrailing' with rfl | rfl
    · rfl
    · rw [List.append_nil] at heq
      exact absurd heq.symm (hmixed hattempt)
    · rw [List.append_nil] at heq
      exact absurd heq (hmixed hattempt')
    · rfl
  subst hsame
  obtain ⟨hfront, rfl, rfl, rfl⟩ := components_inj hfragment hfragment' hpartition hpartition' hattempt hattempt'
    (List.append_cancel_right heq)
  -- the query id is read off from the half of what stands in front
  have hlength : task.queryId.toList.length = task'.queryId.toList.length := by
    have hlengths := congrArg List.length hfront
    simp only [List.length_append, List.length_cons] at hlengths
    omega
  have hquery : task.queryId.toList = task'.queryId.toList := (List.append_inj hfront hlength).1
  refine ⟨String.toList_inj.1 hquery, String.toList_inj.1 ?_⟩
  rw [hid, hid', hquery]

/-- A name of an attempt: a text in front of the operation id, one behind it, and the digest. -/
theorem name_inj {front middle : String} (hdashes : Runtime.StandardDashes rt)
    (hoperation : isCanonicalUUID rt operationId = true) (hoperation' : isCanonicalUUID rt operationId' = true)
    (hname : front ++ compactUUID operationId ++ middle ++ attemptDigest rt task.queryId task.taskAttemptId =
      front ++ compactUUID operationId' ++ middle ++ attemptDigest rt task'.queryId task'.taskAttemptId) :
    operationId = operationId' ∧
      attemptDigest rt task.queryId task.taskAttemptId = attemptDigest rt task'.queryId task'.taskAttemptId := by
  have htext := congrArg String.toList hname
  simp only [String.toList_append, List.append_assoc] at htext
  obtain ⟨hcompact, hrest⟩ := List.append_inj (List.append_cancel_left htext)
    (length_compactUUID hdashes hoperation hoperation')
  exact ⟨compactUUID_inj hdashes hoperation hoperation' (String.toList_inj.1 hcompact),
    String.toList_inj.1 (List.append_cancel_left hrest)⟩

end Names

/-- Two attempts share a data file prefix or a commit user exactly if they are one attempt in one
operation. -/
theorem names_identify_attempt (rt : Runtime) (transport transport' : InsertTransport)
    (task task' : DistributedWriteTaskContext) (identity identity' : String)
    (hdashes : Runtime.StandardDashes rt) (hmd5 : Runtime.NoCollision rt (digestInput task) (digestInput task'))
    (hoperation : isCanonicalUUID rt transport.operationId = true)
    (hoperation' : isCanonicalUUID rt transport'.operationId = true)
    (htask : vaneLogicalTaskIdentity task.queryId task.taskAttemptId = .ok identity)
    (htask' : vaneLogicalTaskIdentity task'.queryId task'.taskAttemptId = .ok identity') :
    (workerDataFilePrefix rt transport.operationId task = workerDataFilePrefix rt transport'.operationId task' ∨
        workerCommitUser rt transport.operationId task = workerCommitUser rt transport'.operationId task') ↔
      transport.operationId = transport'.operationId ∧ task.queryId = task'.queryId ∧
        task.taskAttemptId = task'.taskAttemptId := by
  constructor
  · intro h
    have hparts : transport.operationId = transport'.operationId ∧
        attemptDigest rt task.queryId task.taskAttemptId = attemptDigest rt task'.queryId task'.taskAttemptId := by
      rcases h with h | h
      · exact name_inj hdashes hoperation hoperation' h
      · exact name_inj hdashes hoperation hoperation' h
    exact ⟨hparts.1, digestInput_inj htask htask' (hmd5 hparts.2)⟩
  · rintro ⟨hop, hquery, hattempt⟩
    left
    rw [workerDataFilePrefix, workerDataFilePrefix, hop, hquery, hattempt]

/-- `UUID::FromString`, strict: dashes at the standard positions, hexadecimal digits elsewhere. -/
def uuidFromStringStrict (value : String) : Bool :=
  value.toList.zipIdx.all fun (c, i) =>
    if i ∈ [8, 13, 18, 23] then c == '-' else c.isDigit || ('a' ≤ c && c ≤ 'f') || ('A' ≤ c && c ≤ 'F')

theorem standardDashes_strict {rt : Runtime} (h : rt.uuidFromString = uuidFromStringStrict) :
    Runtime.StandardDashes rt := by
  intro value hvalue i
  have hlength := length_of_isCanonicalUUID hvalue
  rw [isCanonicalUUID, Bool.and_eq_true, h, uuidFromStringStrict, List.all_eq_true] at hvalue
  constructor
  · intro hdash
    have hcheck := hvalue.2 ('-', i) (List.mk_mem_zipIdx_iff_getElem?.2 hdash)
    dsimp only at hcheck
    by_contra hi
    rw [if_neg hi] at hcheck
    cases hcheck
  · intro hi
    have hlt : i < value.toList.length := by
      have hcases : i = 8 ∨ i = 13 ∨ i = 18 ∨ i = 23 := by simpa using hi
      omega
    have hget := List.getElem?_eq_getElem hlt
    have hcheck := hvalue.2 (_, i) (List.mk_mem_zipIdx_iff_getElem?.2 hget)
    dsimp only at hcheck
    rw [if_pos hi, beq_iff_eq] at hcheck
    rw [hget, hcheck]

namespace TwoAttempts

def attempt (taskAttemptId : String) : DistributedWriteTaskContext := ⟨"q", taskAttemptId⟩

def runtime : Runtime where
  md5Hex input :=
    if input = digestInput (attempt "q.0.0.0") then "061a9d0fa34f1d3885775bbc45e497e0"
    else "9dce6ab7efdf9aea03f1eef65f63502b"
  hash _ := 0
  uuidFromString := uuidFromStringStrict
  binary := binaryFormat

end TwoAttempts

/-- A retry of a task has its own data files and its own commit user. -/
theorem names_identify_attempt_retry :
    workerDataFilePrefix TwoAttempts.runtime InsertTransport.sample.operationId (TwoAttempts.attempt "q.0.0.0") ≠
        workerDataFilePrefix TwoAttempts.runtime InsertTransport.sample.operationId (TwoAttempts.attempt "q.0.0.1") ∧
      workerCommitUser TwoAttempts.runtime InsertTransport.sample.operationId (TwoAttempts.attempt "q.0.0.0") ≠
        workerCommitUser TwoAttempts.runtime InsertTransport.sample.operationId (TwoAttempts.attempt "q.0.0.1") := by
  have hnames := names_identify_attempt TwoAttempts.runtime .sample .sample
    (TwoAttempts.attempt "q.0.0.0") (TwoAttempts.attempt "q.0.0.1") "q.0.0" "q.0.0" (standardDashes_strict rfl)
    (fun h => absurd h (by decide +kernel)) (by decide +kernel) (by decide +kernel) rfl rfl
  have hdifferent : (TwoAttempts.attempt "q.0.0.0").taskAttemptId ≠ (TwoAttempts.attempt "q.0.0.1").taskAttemptId := by
    decide
  exact ⟨fun h => hdifferent (hnames.1 (.inl h)).2.2, fun h => hdifferent (hnames.1 (.inr h)).2.2⟩

end DuckPaimon.Write
