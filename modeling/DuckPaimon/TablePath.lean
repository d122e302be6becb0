/-
`PaimonTablePath` (paimon_functions.cpp): the warehouse, database and table of a table path, and
when the path joined from them is the path they were taken from.
-/
import DuckPaimon.Lib.Outcome
import DuckPaimon.Types
import Mathlib.Data.List.Basic

namespace DuckPaimon

open Outcome

/-! ## Searching backwards -/

/-- `find_last_of` of one character; `none` is `npos`. -/
def findLastOf (character : Char) : List Char → Option Nat
  | [] => none
  | c :: cs =>
    match findLastOf character cs with
    | some position => some (position + 1)
    | none => if c = character then some 0 else none

theorem findLastOf_eq_none {character : Char} {text : List Char} :
    findLastOf character text = none ↔ character ∉ text := by
  induction text with
  | nil => exact ⟨fun _ => List.not_mem_nil, fun _ => rfl⟩
  | cons c cs ih =>
    rw [findLastOf, List.mem_cons, not_or, ← ih]
    cases hcs : findLastOf character cs with
    | some position => simp
    | none => simp [eq_comm]

/-- What stands behind the last position of a character does not hold it. -/
theorem findLastOf_append {character : Char} (front : List Char) {back : List Char} (h : character ∉ back) :
    findLastOf character (front ++ character :: back) = some front.length := by
  induction front with
  | nil =>
    rw [List.nil_append, findLastOf, findLastOf_eq_none.2 h]
    exact if_pos rfl
  | cons c front ih =>
    rw [List.cons_append, findLastOf, ih]
    rfl

theorem exists_of_findLastOf {character : Char} {text : List Char} {position : Nat}
    (h : findLastOf character text = some position) :
    ∃ front back, text = front ++ character :: back ∧ character ∉ back ∧ front.length = position := by
  induction text generalizing position with
  | nil => cases h
  | cons c cs ih =>
    rw [findLastOf] at h
    cases hcs : findLastOf character cs with
    | some position' =>
      rw [hcs] at h
      cases h
      obtain ⟨front, back, rfl, hback, rfl⟩ := ih hcs
      exact ⟨c :: front, back, rfl, hback, rfl⟩
    | none =>
      rw [hcs] at h
      dsimp only at h
      split at h
      · rename_i hc
        cases h
        exact ⟨[], cs, by rw [hc, List.nil_append], findLastOf_eq_none.1 hcs, rfl⟩
      · cases h

/-! ## The parser -/

/-- `PaimonTablePath`. -/
structure PaimonTablePath where
  warehouse : String
  dbname : String
  tablename : String
  deriving DecidableEq, Repr

/-- `paimon::Catalog::DB_SUFFIX`. -/
def dbSuffix : String := ".db"

/-- The single-argument form. -/
def PaimonTablePath.parseWhole (wholePath : List Char) : Except Exception PaimonTablePath :=
  match findLastOf '/' wholePath with
  | none => throw (.invalidInput "Invalid database path format: missing '/'")
  | some lastSlash =>
    let tablename := wholePath.drop (lastSlash + 1)
    let wholePath := wholePath.take lastSlash
    let lastSlash := findLastOf '/' wholePath
    -- `npos + 1` is 0, and `substr(0, npos)` is everything
    let dbnameRaw := match lastSlash with
      | some lastSlash => wholePath.drop (lastSlash + 1)
      | none => wholePath
    let warehouse := match lastSlash with
      | some lastSlash => wholePath.take lastSlash
      | none => wholePath
    if dbSuffix.toList.isSuffixOf dbnameRaw then
      return { warehouse := String.ofList warehouse,
               dbname := String.ofList (dbnameRaw.take (dbnameRaw.length - dbSuffix.length)),
               tablename := String.ofList tablename }
    else throw (.invalidInput "Invalid database path format")

/-- `PaimonTablePath::Parse`, of the texts of the inputs. -/
def PaimonTablePath.parse : List String → Except Exception PaimonTablePath
  | [] => throw (.invalidInput "warehouse path is necessary")
  | [wholePath] => parseWhole wholePath.toList
  | warehouse :: dbname :: tablename :: _ => return { warehouse, dbname, tablename }
  | [_, _] => throw (.internal "Attempted to access index 2 within vector of size 2")

/-! ## The path of the parts -/

/-- The path of a table in a warehouse. -/
def PaimonTablePath.joined (path : PaimonTablePath) : String :=
  path.warehouse ++ "/" ++ path.dbname ++ dbSuffix ++ "/" ++ path.tablename

/-- The joined path is the given one, up to a leading `./` of a relative path. -/
def PaimonTablePath.Denotes (path : PaimonTablePath) (given : String) : Prop :=
  path.joined = given ∨
    given.toList.head? ≠ some '/' ∧ (path.joined = "./" ++ given ∨ "./" ++ path.joined = given)

/-- A path with two slashes at least. -/
def TwoSlashes (given : String) : Prop :=
  ∃ warehouse database table : List Char, given.toList = warehouse ++ '/' :: (database ++ '/' :: table)

namespace PaimonTablePath

/-- What a parsed path is made of: with a second slash, the three parts in their places; without
one, the database directory stands for the warehouse too. -/
inductive Parses (given : List Char) (path : PaimonTablePath) : Prop
  | parts (warehouse database table : List Char)
      (of : given = warehouse ++ '/' :: (database ++ dbSuffix.toList ++ '/' :: table))
      (tableFree : '/' ∉ table)
      (eq : path = ⟨String.ofList warehouse, String.ofList database, String.ofList table⟩)
  | noWarehouse (database table : List Char) (of : given = database ++ dbSuffix.toList ++ '/' :: table)
      (databaseFree : '/' ∉ database) (tableFree : '/' ∉ table)
      (eq : path = ⟨String.ofList (database ++ dbSuffix.toList), String.ofList database, String.ofList table⟩)

theorem dbSuffix_free : '/' ∉ dbSuffix.toList := by decide +kernel

theorem exists_of_isSuffixOf {raw : List Char} (h : dbSuffix.toList.isSuffixOf raw = true) :
    ∃ database, raw = database ++ dbSuffix.toList ∧ raw.take (raw.length - dbSuffix.length) = database := by
  rw [List.isSuffixOf_iff_suffix] at h
  obtain ⟨database, rfl⟩ := h
  refine ⟨database, rfl, ?_⟩
  rw [List.length_append, String.length_toList, Nat.add_sub_cancel, List.take_left]

theorem parses_of_parseWhole {given : List Char} {path : PaimonTablePath} (h : parseWhole given = .ok path) :
    Parses given path := by
  unfold parseWhole at h
  split at h
  · cases h
  · rename_i lastSlash hlast
    obtain ⟨front, table, rfl, htable, rfl⟩ := exists_of_findLastOf hlast
    have htake : (front ++ '/' :: table).take front.length = front := List.take_left
    have hdrop : (front ++ '/' :: table).drop (front.length + 1) = table := by
      rw [← List.drop_drop, List.drop_left]
      rfl
    simp only [htake, hdrop] at h
    cases hsecond : findLastOf '/' front with
    | none =>
      simp only [hsecond] at h
      split at h
      · rename_i hsuffix
        obtain ⟨database, hraw, hdatabase⟩ := exists_of_isSuffixOf hsuffix
        rw [findLastOf_eq_none] at hsecond
        rw [hdatabase] at h
        refine .noWarehouse database table (by rw [hraw]) ?_ htable ?_
        · exact fun hmem => hsecond (hraw ▸ List.mem_append_left _ hmem)
        · rw [← hraw]
          exact (pure_eq_ok.1 h).symm
      · cases h
    | some second =>
      obtain ⟨warehouse, raw, rfl, hraw, rfl⟩ := exists_of_findLastOf hsecond
      have htake' : (warehouse ++ '/' :: raw).take warehouse.length = warehouse := List.take_left
      have hdrop' : (warehouse ++ '/' :: raw).drop (warehouse.length + 1) = raw := by
        rw [← List.drop_drop, List.drop_left]
        rfl
      simp only [hsecond, htake', hdrop'] at h
      split at h
      · rename_i hsuffix
        obtain ⟨database, rfl, hdatabase⟩ := exists_of_isSuffixOf hsuffix
        rw [hdatabase] at h
        exact .parts warehouse database table (by simp) htable (pure_eq_ok.1 h).symm
      · cases h

theorem parseWhole_parts (warehouse database table : List Char) (hdatabase : '/' ∉ database) (htable : '/' ∉ table) :
    parseWhole (warehouse ++ '/' :: (database ++ dbSuffix.toList ++ '/' :: table)) =
      .ok ⟨String.ofList warehouse, String.ofList database, String.ofList table⟩ := by
  have hraw : '/' ∉ database ++ dbSuffix.toList := by
    rw [List.mem_append, not_or]
    exact ⟨hdatabase, dbSuffix_free⟩
  have hassoc : warehouse ++ '/' :: (database ++ dbSuffix.toList ++ '/' :: table) =
      (warehouse ++ '/' :: (database ++ dbSuffix.toList)) ++ '/' :: table := by simp
  have hsecond := findLastOf_append warehouse hraw
  unfold parseWhole
  rw [hassoc, findLastOf_append _ htable]
  have hdrop : ((warehouse ++ '/' :: (database ++ dbSuffix.toList)) ++ '/' :: table).drop
      ((warehouse ++ '/' :: (database ++ dbSuffix.toList)).length + 1) = table := by
    rw [← List.drop_drop, List.drop_left]
    rfl
  have hdrop' : (warehouse ++ '/' :: (database ++ dbSuffix.toList)).drop (warehouse.length + 1) =
      database ++ dbSuffix.toList := by
    rw [← List.drop_drop, List.drop_left]
    rfl
  have hsuffix : dbSuffix.toList.isSuffixOf (database ++ dbSuffix.toList) = true := by
    rw [List.isSuffixOf_iff_suffix]
    exact List.suffix_append _ _
  have hname : (database ++ dbSuffix.toList).take ((database ++ dbSuffix.toList).length - dbSuffix.length) = database := by
    rw [List.length_append, String.length_toList, Nat.add_sub_cancel, List.take_left]
  simp only [hdrop, List.take_left, hsecond, hdrop', hsuffix, hname, if_true]
  rfl

theorem joined_ofList (warehouse database table : List Char) :
    (joined ⟨String.ofList warehouse, String.ofList database, String.ofList table⟩).toList =
      warehouse ++ '/' :: (database ++ dbSuffix.toList ++ '/' :: table) := by
  simp [joined, String.toList_append]

/-- Without a second slash there is none: the two parts are free of slashes. -/
theorem not_twoSlashes {front table : List Char} {given : String} (h : given.toList = front ++ '/' :: table)
    (hfront : '/' ∉ front) (htable : '/' ∉ table) : ¬TwoSlashes given := by
  rintro ⟨a, b, c, habc⟩
  have hcount : given.toList.count '/' = 1 := by
    rw [h, List.count_append, List.count_cons_self, List.count_eq_zero_of_not_mem hfront,
      List.count_eq_zero_of_not_mem htable]
  rw [habc, List.count_append, List.count_cons_self, List.count_append, List.count_cons_self] at hcount
  omega

end PaimonTablePath

open PaimonTablePath in
/-- An accepted path is joined from its parts exactly when it has a second slash, before the
database; and the parts of a joined path are parsed back. -/
theorem parse_denotes_iff (given : String) (path : PaimonTablePath) :
    (PaimonTablePath.parse [given] = .ok path → (path.Denotes given ↔ TwoSlashes given)) ∧
      ('/' ∉ path.dbname.toList → '/' ∉ path.tablename.toList →
        PaimonTablePath.parse [path.joined] = .ok path ∧
          PaimonTablePath.parse [path.warehouse, path.dbname, path.tablename] = .ok path) := by
  refine ⟨fun h => ?_, fun hdatabase htable => ⟨?_, rfl⟩⟩
  · rcases parses_of_parseWhole h with ⟨warehouse, database, table, hgiven, -, rfl⟩ |
      ⟨database, table, hgiven, hdatabase, htable, rfl⟩
    · refine iff_of_true (.inl ?_) ⟨warehouse, _, table, hgiven⟩
      rw [← String.toList_inj, joined_ofList, hgiven]
    · have hraw : '/' ∉ database ++ dbSuffix.toList := by
        rw [List.mem_append, not_or]
        exact ⟨hdatabase, dbSuffix_free⟩
      refine iff_of_false ?_ (not_twoSlashes hgiven hraw htable)
      -- the database directory is joined twice, which is more than a leading `./` adds
      have hjoined := joined_ofList (database ++ dbSuffix.toList) database table
      have hlength := congrArg List.length hjoined
      have hlength' := congrArg List.length hgiven
      have hsuffix : dbSuffix.length = 3 := by decide +kernel
      simp only [List.length_append, List.length_cons, String.length_toList] at hlength hlength'
      rw [hsuffix] at hlength hlength'
      have hdot : "./".length = 2 := by decide +kernel
      rintro (heq | ⟨-, heq | heq⟩)
      · have := congrArg String.length heq
        omega
      · have := congrArg String.length heq
        rw [String.length_append] at this
        omega
      · have := congrArg String.length heq
        rw [String.length_append] at this
        omega
  · have := parseWhole_parts path.warehouse.toList path.dbname.toList path.tablename.toList hdatabase htable
    simp only [String.ofList_toList] at this
    rw [← this]
    show parseWhole path.joined.toList = _
    have hjoined := joined_ofList path.warehouse.toList path.dbname.toList path.tablename.toList
    simp only [String.ofList_toList] at hjoined
    rw [← hjoined]

/-- A path with a second slash, and one without. -/
theorem parse_denotes_iff_wh :
    (PaimonTablePath.Denotes ⟨"wh", "d", "t"⟩ "wh/d.db/t" ↔ TwoSlashes "wh/d.db/t") ∧
      PaimonTablePath.parse [PaimonTablePath.joined ⟨"wh", "d", "t"⟩] = .ok ⟨"wh", "d", "t"⟩ :=
  ⟨(parse_denotes_iff "wh/d.db/t" ⟨"wh", "d", "t"⟩).1 (by decide +kernel),
    ((parse_denotes_iff "" ⟨"wh", "d", "t"⟩).2 (by decide +kernel) (by decide +kernel)).1⟩

/-- A path without a second slash is accepted, and its parts denote another one. -/
theorem parse_denotes_another : PaimonTablePath.parse ["d.db/t"] = .ok ⟨"d.db", "d", "t"⟩ ∧
    ¬PaimonTablePath.Denotes ⟨"d.db", "d", "t"⟩ "d.db/t" := by
  refine ⟨by decide +kernel, ?_⟩
  rintro (h | ⟨-, h | h⟩) <;> exact absurd h (by decide +kernel)

end DuckPaimon
