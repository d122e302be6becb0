/-
`PaimonCatalog::GetPaimonOptions` (paimon_catalog.cpp): the options of Paimon for a path, from the
options a user gives and the secret of the host for the path. Without user options they hold none of
the options that decide what is read.
-/
import DuckPaimon.Lib.Outcome
import DuckPaimon.Types
import Mathlib.Data.List.Basic

namespace DuckPaimon.Catalog

open Outcome

/-! ## What the options are made of -/

/-- A `KeyValueSecret`: its provider and the texts of its values. -/
structure KeyValueSecret where
  provider : String
  tryGetValue : String → Option String

/-- What a host replies: `SecretManager::LookupSecret` of a path under the type `paimon`, and the epoch
milliseconds of `Timestamp::FromString`. -/
structure OptionsHost where
  lookupSecret : String → Except Exception (Option KeyValueSecret)
  getEpochMs : String → Except Exception Int64

/-- `unordered_map<string, Value>`, with the texts of the values, in the order it is walked. -/
abbrev InputOptions := List (String × String)

/-- The keys of `paimon::CatalogOptions` and `paimon::Options` that are set. -/
def metastoreKey : String := "metastore"
@[inherit_doc metastoreKey] def uriKey : String := "uri"
@[inherit_doc metastoreKey] def tokenProviderKey : String := "token.provider"
@[inherit_doc metastoreKey] def tokenKey : String := "token"
@[inherit_doc metastoreKey] def manifestFormatKey : String := "manifest.format"
@[inherit_doc metastoreKey] def fileFormatKey : String := "file.format"
@[inherit_doc metastoreKey] def fileSystemKey : String := "file-system"
@[inherit_doc metastoreKey] def readBatchSizeKey : String := "read.batch-size"
@[inherit_doc metastoreKey] def scanSnapshotIdKey : String := "scan.snapshot-id"
@[inherit_doc metastoreKey] def scanTimestampMillisKey : String := "scan.timestamp-millis"

/-- `StringUtil::Lower`, of ASCII letters. -/
def lower (text : String) : String := String.ofList (text.toList.map Char.toLower)

/-- `StringUtil::CIEquals`. -/
def ciEquals (left right : String) : Bool := lower left == lower right

/-- `StringUtil::CharacterIsSpace`. -/
def characterIsSpace (character : Char) : Bool :=
  character == ' ' || (9 ≤ character.toNat && character.toNat ≤ 13)

/-- `StringUtil::Trim`. -/
def trim (text : String) : String :=
  String.ofList ((text.toList.dropWhile characterIsSpace).reverse.dropWhile characterIsSpace).reverse

/-- `TryGetPaimonOptionValue`. -/
def tryGetPaimonOptionValue (inputOptions : InputOptions) (key : String) : Option String :=
  (inputOptions.find? fun entry => ciEquals entry.1 key).map Prod.snd

/-- `GetValidatedFormatOption`. -/
def getValidatedFormatOption (inputOptions : InputOptions) (key defaultValue : String) (supportedValues : List String) :
    Except Exception String :=
  match tryGetPaimonOptionValue inputOptions key with
  | none => return defaultValue
  | some rawValue => do
    let normalizedValue := trim (lower rawValue)
    throwIf (normalizedValue = "") (.invalidInput ("Option \"" ++ key ++ "\" cannot be empty"))
    throwIf (normalizedValue ∉ supportedValues)
      (.invalidInput ("Invalid value \"" ++ rawValue ++ "\" for option \"" ++ key ++ "\". Supported values are: " ++
        ", ".intercalate supportedValues))
    return normalizedValue

/-- `AddOptionalSecretOption`. -/
def addOptionalSecretOption (secret : KeyValueSecret) (options : StringMap) (entry : String × String) : StringMap :=
  match secret.tryGetValue entry.1 with
  | some value => options.insert entry.2 value
  | none => options

/-- `AddRequiredSecretOption`. -/
def addRequiredSecretOption (secret : KeyValueSecret) (options : StringMap) (entry : String × String) :
    Except Exception StringMap :=
  match secret.tryGetValue entry.1 with
  | some value =>
    if value = "" then throw (.invalidInput ("Missing required Paimon secret option \"" ++ entry.1 ++ "\""))
    else return options.insert entry.2 value
  | none => throw (.invalidInput ("Missing required Paimon secret option \"" ++ entry.1 ++ "\""))

/-! ## `GetPaimonOptions` -/

/-- The options of the metastore. -/
def metastoreOptions (inputOptions : InputOptions) (options : StringMap) : Except Exception StringMap :=
  match tryGetPaimonOptionValue inputOptions "metastore" with
  | none => return options
  | some metastore =>
    let options := options.insert metastoreKey metastore
    if ciEquals metastore "rest" = false then return options
    else do
      let uri := (tryGetPaimonOptionValue inputOptions "uri").getD ""
      throwIf (uri = "") (.invalidInput "URI is required when METASTORE is 'rest'")
      let tokenProvider := (tryGetPaimonOptionValue inputOptions "token_provider").getD ""
      throwIf (tokenProvider = "") (.invalidInput "TOKEN_PROVIDER is required when METASTORE is 'rest'")
      let token := tryGetPaimonOptionValue inputOptions "token"
      throwIf (ciEquals tokenProvider "bear" = true ∧ token.getD "" = "")
        (.invalidInput "TOKEN is required when TOKEN_PROVIDER is 'bear'")
      let options := (options.insert uriKey uri).insert tokenProviderKey tokenProvider
      match token with
      | some token => return options.insert tokenKey token
      | none => return options

/-- A format the user gives. -/
def formatOption (inputOptions : InputOptions) (inputKey key : String) (supportedValues : List String)
    (options : StringMap) : Except Exception StringMap :=
  match tryGetPaimonOptionValue inputOptions inputKey with
  | none => return options
  | some _ => do
    let format ← getValidatedFormatOption inputOptions inputKey "" supportedValues
    return options.insert key format

/-- `OSS_PATH_PREFIX` and `S3_PATH_PREFIX`. -/
def ossPathPrefix : String := "oss://"
@[inherit_doc ossPathPrefix] def s3PathPrefix : String := "s3://"

/-- `StringUtil::StartsWith` of the path in lower case. -/
def startsWith (path pathPrefix : String) : Bool := pathPrefix.toList.isPrefixOf (lower path).toList

/-- The file system of a path. -/
def fileSystemOf (path : String) : String :=
  if startsWith path ossPathPrefix then "jindo" else if startsWith path s3PathPrefix then "s3" else "local"

/-- The bucket of an OSS path. -/
def bucketOf (path : String) : String :=
  String.ofList ((path.toList.drop ossPathPrefix.length).takeWhile (· ≠ '/'))

/-- The secret options of an OSS path. -/
def ossSecretOptions (secret : KeyValueSecret) (path : String) (options : StringMap) : Except Exception StringMap := do
  throwIf (bucketOf path = "") (.io ("Invalid OSS path, cannot extract bucket name: " ++ path))
  let bucketOptionPrefix := "fs.oss.bucket." ++ bucketOf path ++ "."
  [("key_id", bucketOptionPrefix ++ "accessKeyId"), ("secret", bucketOptionPrefix ++ "accessKeySecret"),
    ("endpoint", bucketOptionPrefix ++ "endpoint")].foldlM (addRequiredSecretOption secret)
      (options.insert "fs.oss.user" "paimon")

/-- The secret options of an S3 path. -/
def s3SecretOptions (secret : KeyValueSecret) (options : StringMap) : StringMap :=
  [("key_id", "s3.access-key"), ("secret", "s3.secret-key"), ("endpoint", "s3.endpoint"),
    ("session_token", "s3.session.token"), ("profile", "s3.profile"), ("region", "s3.region"),
    ("path_style_access", "s3.path-style-access")].foldl (addOptionalSecretOption secret) options

/-- The options of a secret that matches the path. -/
def secretOptions (secret : Option KeyValueSecret) (path : String) (options : StringMap) : Except Exception StringMap :=
  match secret with
  | none => return options
  | some secret => do
    throwIf (secret.provider = "credential_chain" ∧ startsWith path s3PathPrefix = false)
      (.invalidInput ("Paimon provider \"" ++ secret.provider ++ "\" is only supported for S3 paths"))
    if startsWith path ossPathPrefix then ossSecretOptions secret path options
    else if startsWith path s3PathPrefix then return s3SecretOptions secret options
    else return options

/-- The snapshot the user asks for. -/
def snapshotOptions (host : OptionsHost) (inputOptions : InputOptions) (options : StringMap) :
    Except Exception StringMap := do
  let snapId := tryGetPaimonOptionValue inputOptions "snapshot_from_id"
  let snapTs := tryGetPaimonOptionValue inputOptions "snapshot_from_timestamp"
  throwIf (snapId.isSome = true ∧ snapTs.isSome = true)
    (.invalidInput "Cannot specify both 'snapshot_from_id' and 'snapshot_from_timestamp'")
  let options := match snapId with
    | some snapId => options.insert scanSnapshotIdKey snapId
    | none => options
  match snapTs with
  | some snapTs => do
    let epochMs ← host.getEpochMs snapTs
    return options.insert scanTimestampMillisKey (toString epochMs)
  | none => return options

/-- `PaimonCatalog::GetPaimonOptions`. -/
def getPaimonOptions (host : OptionsHost) (path : String) (inputOptions : InputOptions) : Except Exception StringMap := do
  let options ← metastoreOptions inputOptions .empty
  let options ← formatOption inputOptions "manifest_format" manifestFormatKey ["avro", "orc", "parquet"] options
  let options ← formatOption inputOptions "file_format" fileFormatKey ["avro", "blob", "orc", "parquet"] options
  let secret ← host.lookupSecret path
  let options ← secretOptions secret path (options.insert fileSystemKey (fileSystemOf path))
  snapshotOptions host inputOptions (options.emplace readBatchSizeKey "2048")

/-! ## Without user options -/

/-- The keys a host sets by itself. -/
def HostKey (key : String) : Prop :=
  key = fileSystemKey ∨ key = readBatchSizeKey ∨ (∃ rest, key = "fs.oss." ++ rest) ∨ ∃ rest, key = "s3." ++ rest

/-- All options are the host's own. -/
def HostOnly (options : StringMap) : Prop := ∀ key, options.find? key ≠ none → HostKey key

theorem HostOnly.upsert {options : StringMap} (h : HostOnly options) {key : String} (hkey : HostKey key)
    (f : Option String → String) : HostOnly (options.upsert key f) := by
  intro key' hfind
  rw [SortedMap.find?_upsert] at hfind
  by_cases heq : key' = key
  · rwa [heq]
  · rw [if_neg heq] at hfind
    exact h key' hfind

theorem HostOnly.s3SecretOptions {options : StringMap} (h : HostOnly options) (secret : KeyValueSecret) :
    HostOnly (s3SecretOptions secret options) := by
  have hadd (entries : List (String × String)) (hentries : ∀ entry ∈ entries, HostKey entry.2) {options : StringMap}
      (h : HostOnly options) : HostOnly (entries.foldl (addOptionalSecretOption secret) options) := by
    induction entries generalizing options with
    | nil => exact h
    | cons entry entries ih =>
      rw [List.forall_mem_cons] at hentries
      refine ih hentries.2 ?_
      unfold addOptionalSecretOption
      split
      · exact h.upsert hentries.1 _
      · exact h
  refine hadd _ ?_ h
  simp only [List.forall_mem_cons, List.not_mem_nil, false_implies, implies_true, and_true]
  exact ⟨.inr (.inr (.inr ⟨"access-key", rfl⟩)), .inr (.inr (.inr ⟨"secret-key", rfl⟩)),
    .inr (.inr (.inr ⟨"endpoint", rfl⟩)), .inr (.inr (.inr ⟨"session.token", rfl⟩)),
    .inr (.inr (.inr ⟨"profile", rfl⟩)), .inr (.inr (.inr ⟨"region", rfl⟩)),
    .inr (.inr (.inr ⟨"path-style-access", rfl⟩))⟩

theorem HostOnly.ossSecretOptions {options options' : StringMap} (h : HostOnly options) {secret : KeyValueSecret}
    {path : String} (hoptions : ossSecretOptions secret path options = .ok options') : HostOnly options' := by
  have hadd (entries : List (String × String)) (hentries : ∀ entry ∈ entries, HostKey entry.2) {options : StringMap}
      (h : HostOnly options) (hoptions : entries.foldlM (addRequiredSecretOption secret) options = .ok options') :
      HostOnly options' := by
    induction entries generalizing options with
    | nil =>
      cases pure_eq_ok.1 hoptions
      exact h
    | cons entry entries ih =>
      rw [List.forall_mem_cons] at hentries
      rw [List.foldlM_cons] at hoptions
      obtain ⟨added, hadded, hoptions⟩ := bind_eq_ok.1 hoptions
      refine ih hentries.2 ?_ hoptions
      unfold addRequiredSecretOption at hadded
      split at hadded
      · obtain ⟨-, hadded⟩ := guard_eq_ok.1 hadded
        cases pure_eq_ok.1 hadded
        exact h.upsert hentries.1 _
      · cases hadded
  unfold Catalog.ossSecretOptions at hoptions
  obtain ⟨-, hoptions⟩ := throwIf_bind_eq_ok.1 hoptions
  have hbucket (option : String) : HostKey ("fs.oss.bucket." ++ bucketOf path ++ "." ++ option) :=
    .inr (.inr (.inl ⟨"bucket." ++ bucketOf path ++ "." ++ option, by simp [String.append_assoc]; rfl⟩))
  refine hadd _ ?_ (h.upsert (.inr (.inr (.inl ⟨"user", rfl⟩))) _) hoptions
  simp only [List.forall_mem_cons, List.not_mem_nil, false_implies, implies_true, and_true]
  exact ⟨hbucket _, hbucket _, hbucket _⟩

/-- Without user options the options are the host's own. -/
theorem hostOnly_getPaimonOptions {host : OptionsHost} {path : String} {options : StringMap}
    (h : getPaimonOptions host path [] = .ok options) : HostOnly options := by
  unfold getPaimonOptions at h
  obtain ⟨options₀, hmetastore, h⟩ := bind_eq_ok.1 h
  cases pure_eq_ok.1 hmetastore
  obtain ⟨options₁, hmanifest, h⟩ := bind_eq_ok.1 h
  cases pure_eq_ok.1 hmanifest
  obtain ⟨options₂, hfile, h⟩ := bind_eq_ok.1 h
  cases pure_eq_ok.1 hfile
  obtain ⟨secret, -, h⟩ := bind_eq_ok.1 h
  obtain ⟨withSecret, hsecret, h⟩ := bind_eq_ok.1 h
  obtain rfl : withSecret.emplace readBatchSizeKey "2048" = options := Except.ok.inj h
  have hsystem : HostOnly (SortedMap.empty.insert fileSystemKey (fileSystemOf path)) :=
    HostOnly.upsert (fun key hkey => absurd rfl hkey) (.inl rfl) _
  refine HostOnly.upsert ?_ (.inr (.inl rfl)) _
  cases secret with
  | none =>
    cases pure_eq_ok.1 hsecret
    exact hsystem
  | some secret =>
    unfold secretOptions at hsecret
    obtain ⟨-, hsecret⟩ := throwIf_bind_eq_ok.1 hsecret
    split at hsecret
    · exact hsystem.ossSecretOptions hsecret
    · split at hsecret
      · cases pure_eq_ok.1 hsecret
        exact hsystem.s3SecretOptions secret
      · cases pure_eq_ok.1 hsecret
        exact hsystem

end DuckPaimon.Catalog
