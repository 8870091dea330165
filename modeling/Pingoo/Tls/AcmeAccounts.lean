import Mathlib.Logic.Encodable.Basic
import Mathlib.Logic.Equiv.List
import Pingoo.Library.KeyedFold
import Pingoo.Library.StepRun
import Pingoo.Tls.AcmeConfig
import Pingoo.Tls.SaveInterrupted

namespace Pingoo.Tls

/-!
# ACME accounts

The account of a directory is loaded from a file, or created there and saved in
it.  Over any number of starts the file is a book of the accounts: each
directory keeps the first account that was created for it.
-/

open Fallible KeyedFold StepRun

/--
`serde_json` for the configuration: values and their texts, and the error for a
value that stands for no configuration.
-/
structure AcmeConfigJson where
  fromSlice : Bytes → Except String Json
  toVecPretty : Json → Except String Bytes
  mismatch : Json → String

/-- The JSON of a configuration is written, and read back. -/
def AcmeConfigJson.ReadsBack (json : AcmeConfigJson) (codec : KeyCodec) : Prop :=
  ∀ config : AcmeConfig codec, ∃ content,
    json.toVecPretty config.toValue = .ok content ∧
      json.fromSlice content = .ok config.toValue

/-- `instant_acme::NewAccount`. -/
structure NewAccount where
  contact : List Str
  termsOfServiceAgreed : Bool
  onlyReturnExisting : Bool
  deriving Repr, DecidableEq

variable {codec : KeyCodec}

/-- `instant_acme::Account`: its id, and the key that it signs with. -/
structure Account (codec : KeyCodec) where
  id : Str
  key : PrivatePkcs8KeyDer codec
  directoryUrl : Str

/-- What is stored of an account. -/
def Account.stored (account : Account codec) : AcmeAccount codec :=
  ⟨account.id, account.key⟩

/--
What comes of the calls of `instant_acme`: making a client, loading an account
from its parts, and creating one together with its private key.
-/
structure AccountService (codec : KeyCodec) where
  builder : Except String Unit
  fromParts :
    Str → PrivatePkcs8KeyDer codec → Str → Except String (Account codec)
  create :
    NewAccount → Str →
      Except String (Account codec × PrivatePkcs8KeyDer codec)

/--
An account that is loaded has the id and the key that it is loaded from, and the
private key that is returned for a new account is its key.
-/
structure AccountService.Restores (service : AccountService codec) : Prop where
  fromParts :
    ∀ id key url account,
      service.fromParts id key url = .ok account →
        account.stored = ⟨id, key⟩
  create :
    ∀ newAccount url account key,
      service.create newAccount url = .ok (account, key) → account.key = key

/-- A call of `load_or_create_acme_account`, and what it finds then. -/
structure AccountCall (codec : KeyCodec) where
  directoryUrl : Str
  service : AccountService codec
  system : System

/-- `acme_config_path`. -/
def acmeConfigPath : OsStr :=
  Str.asBytes "acme.json".toList

section Functions

variable (json : AcmeConfigJson) (call : AccountCall codec) (folder : Folder)

/-- The configuration of the file, or an empty one if there is no file. -/
def readAcmeConfig : Except Error (AcmeConfig codec) :=
  match folder.read acmeConfigPath with
  | .ok content =>
      (json.fromSlice content >>= fun value =>
        orError (json.mismatch value)
          (AcmeConfig.fromValue codec value)).mapError
        fun err => .unspecified
          s!"error reading {call.system.debugPath acmeConfigPath}: {err}"
  | .error err =>
      if err.notFound then
        .ok (.v1 ⟨.empty⟩)
      else
        .error (.unspecified (
          "error reading ACME configuration file " ++
          s!"({call.system.debugPath acmeConfigPath}): {err.message}"))

/-- Load the account that is there. -/
def loadAcmeAccount
    (account : AcmeAccount codec) : Except Error (Account codec) := do
  call.service.builder.mapError fun err =>
    .unspecified s!"error creating ACME account builder: {err}"
  (call.service.fromParts account.id account.key call.directoryUrl).mapError
    fun err => .unspecified s!"error loading ACME account: {err}"

/-- Create a new account. -/
def createAcmeAccount :
    Except Error (Account codec × PrivatePkcs8KeyDer codec) := do
  call.service.builder.mapError fun err =>
    .config s!"error building ACME client: {err}"
  (call.service.create ⟨[], true, false⟩ call.directoryUrl).mapError
    fun err => .config s!"error creating ACME account: {err}"

/-- `load_or_create_acme_account`. -/
def loadOrCreateAcmeAccount : Except Error (Account codec) × Folder :=
  match readAcmeConfig json call folder with
  | .error err => (.error err, folder)
  | .ok (.v1 acmeConfigV1) =>
      match acmeConfigV1.accounts.get call.directoryUrl with
      | some account => (loadAcmeAccount call account, folder)
      | none =>
          match createAcmeAccount call with
          | .error err => (.error err, folder)
          | .ok (acmeAccount, privateKey) =>
              let accounts := acmeConfigV1.accounts.insert call.directoryUrl
                ⟨acmeAccount.id, privateKey⟩
              match json.toVecPretty (AcmeConfig.v1 ⟨accounts⟩).toValue with
              | .error err =>
                  (.error (.config
                    s!"error serializing ACME configuration: {err}"), folder)
              | .ok content =>
                  match call.system.write acmeConfigPath content folder with
                  | (.error err, later) =>
                      (.error (.config (
                        "error saving ACME configuration file to " ++
                        s!"{call.system.debugPath acmeConfigPath}: {err}")),
                      later)
                  | (.ok (), later) => (.ok acmeAccount, later)

end Functions

/-- There is no file, or one that was written with these accounts. -/
inductive HoldsAccounts
    (json : AcmeConfigJson)
    (folder : Folder) : IndexMap Str (AcmeAccount codec) → Prop where
  | absent
      (isAbsent : folder.lookup acmeConfigPath = none) :
      HoldsAccounts json folder .empty
  | written
      {accounts : IndexMap Str (AcmeAccount codec)}
      {content : Bytes}
      (isWritten :
        json.toVecPretty (AcmeConfig.v1 ⟨accounts⟩).toValue = .ok content)
      (isRead : folder.read acmeConfigPath = .ok content) :
      HoldsAccounts json folder accounts

/-- A system that writes the file. -/
def System.SavesAccounts (system : System) : Prop :=
  ∀ content folder,
    system.write acmeConfigPath content folder =
      (.ok (), folder.write ⟨acmeConfigPath, content⟩)

/-- The account that a call creates if it has to. -/
def AccountCall.created (call : AccountCall codec) :
    Option (AcmeAccount codec) :=
  match createAcmeAccount call with
  | .ok (account, privateKey) => some ⟨account.id, privateKey⟩
  | .error _ => none

/-- The accounts by the URLs of their directories. -/
abbrev AccountBook (codec : KeyCodec) := Str → Option (AcmeAccount codec)

/-- A call on a book: the account that is there, or else a new one. -/
def AccountBook.loadOrCreate
    (book : AccountBook codec)
    (call : AccountCall codec) :
    Except Error (Account codec) × AccountBook codec :=
  (match book call.directoryUrl with
    | some account => loadAcmeAccount call account
    | none => (createAcmeAccount call).map Prod.fst,
  keepFirst AccountCall.directoryUrl AccountCall.created book call)

/-- A folder whose file has the accounts of a book. -/
def IsBook
    (json : AcmeConfigJson)
    (folder : Folder)
    (book : AccountBook codec) : Prop :=
  ∃ accounts, HoldsAccounts json folder accounts ∧ accounts.get = book

section Refinement

variable {json : AcmeConfigJson} {folder : Folder}
variable {accounts : IndexMap Str (AcmeAccount codec)}

/-- What was written is read back. -/
theorem readAcmeConfig_of_holds
    (readsBack : json.ReadsBack codec)
    (call : AccountCall codec)
    (holds : HoldsAccounts json folder accounts) :
    readAcmeConfig json call folder = .ok (.v1 ⟨accounts⟩) := by
  cases holds with
  | absent isAbsent =>
      simp [readAcmeConfig, Folder.read, isAbsent]
  | @written _ content isWritten isRead =>
      obtain ⟨other, isOther, readsOther⟩ := readsBack (.v1 ⟨accounts⟩)
      rw [isWritten, Except.ok.injEq] at isOther
      subst isOther
      rw [readAcmeConfig, isRead]
      simp only [readsOther, ok_bind, AcmeConfig.fromValue_toValue]
      rfl

/-- A call refines the call on the book. -/
theorem loadOrCreate_refines
    (readsBack : json.ReadsBack codec)
    {call : AccountCall codec}
    (saves : call.system.SavesAccounts)
    {book : AccountBook codec}
    (isBook : IsBook json folder book) :
    (loadOrCreateAcmeAccount json call folder).1 =
        (book.loadOrCreate call).1 ∧
      IsBook json (loadOrCreateAcmeAccount json call folder).2
        (book.loadOrCreate call).2 := by
  obtain ⟨accounts, holds, rfl⟩ := isBook
  rw [loadOrCreateAcmeAccount, readAcmeConfig_of_holds readsBack call holds,
    AccountBook.loadOrCreate]
  cases present : accounts.get call.directoryUrl with
  | some account =>
      refine ⟨by simp only [present], accounts, ?_, ?_⟩
      · simpa only [present] using holds
      · rw [keepFirst_eq_self (by rw [present]; rfl)]
  | none =>
      cases isCreated : createAcmeAccount call with
      | error err =>
          have noNew : call.created = none := by
            rw [AccountCall.created, isCreated]
          refine ⟨by simp only [present]; rfl, accounts, ?_, ?_⟩
          · simpa only [present] using holds
          · rw [keepFirst_eq_self (by rw [noNew, Option.or_none])]
      | ok created =>
          obtain ⟨account, privateKey⟩ := created
          have isNew : call.created = some ⟨account.id, privateKey⟩ := by
            rw [AccountCall.created, isCreated]
          obtain ⟨content, isWritten, -⟩ := readsBack
            (.v1 ⟨accounts.insert call.directoryUrl
              ⟨account.id, privateKey⟩⟩)
          simp only [present, isWritten, saves content folder]
          refine ⟨rfl, _, .written isWritten read_write_self, ?_⟩
          rw [IndexMap.get_insert, keepFirst, present, isNew, Option.none_or]

/-- A call that creates no account leaves the folder. -/
theorem loadOrCreateAcmeAccount_of_created_eq_none
    (call : AccountCall codec)
    (noNew : call.created = none) :
    (loadOrCreateAcmeAccount json call folder).2 = folder := by
  cases isCreated : createAcmeAccount call with
  | ok created =>
      rw [AccountCall.created, isCreated] at noNew
      cases noNew
  | error err =>
      rw [loadOrCreateAcmeAccount]
      split
      · rfl
      · next config _ =>
          cases config.accounts.get call.directoryUrl with
          | some account =>
              rfl
          | none =>
              simp only [isCreated]

/-- Any number of calls refine the calls on the book. -/
theorem isBook_final
    (readsBack : json.ReadsBack codec)
    {calls : List (AccountCall codec)}
    (allSave : ∀ call ∈ calls, call.system.SavesAccounts)
    {book : AccountBook codec}
    (isBook : IsBook json folder book) :
    IsBook json
      (final (fun current call => loadOrCreateAcmeAccount json call current)
        folder calls)
      (calls.foldl
        (keepFirst AccountCall.directoryUrl AccountCall.created) book) := by
  induction calls generalizing folder book with
  | nil =>
      exact isBook
  | cons call rest inductionHypothesis =>
      rw [List.forall_mem_cons] at allSave
      exact inductionHypothesis allSave.2
        (loadOrCreate_refines readsBack allSave.1 isBook).2

/-- An account that a call on a book returns is the one of the book then. -/
theorem AccountBook.stored_of_loadOrCreate
    {call : AccountCall codec}
    (restores : call.service.Restores)
    {book : AccountBook codec}
    {account : Account codec}
    (returned : (book.loadOrCreate call).1 = .ok account) :
    (book.loadOrCreate call).2 call.directoryUrl = some account.stored := by
  change keepFirst _ _ book call call.directoryUrl = _
  rw [keepFirst, Function.update_self]
  rw [loadOrCreate] at returned
  cases present : book call.directoryUrl with
  | some stored =>
      simp only [present, loadAcmeAccount, bind_eq_ok_iff,
        mapError_eq_ok_iff] at returned
      obtain ⟨-, -, isLoaded⟩ := returned
      rw [restores.fromParts _ _ _ _ isLoaded]
      rfl
  | none =>
      simp only [present] at returned
      cases isCreated : createAcmeAccount call with
      | error err =>
          rw [isCreated] at returned
          cases returned
      | ok created =>
          obtain ⟨new, privateKey⟩ := created
          rw [isCreated] at returned
          cases returned
          have isNew : call.created = some ⟨new.id, privateKey⟩ := by
            rw [AccountCall.created, isCreated]
          simp only [createAcmeAccount, bind_eq_ok_iff,
            mapError_eq_ok_iff] at isCreated
          obtain ⟨-, -, service⟩ := isCreated
          rw [isNew, ← restores.create _ _ _ _ service]
          rfl

end Refinement

/-- The account of a URL: the one that is there, or the first created one. -/
def firstAccount
    (accounts : IndexMap Str (AcmeAccount codec))
    (calls : List (AccountCall codec))
    (url : Str) : Option (AcmeAccount codec) :=
  (accounts.get url).or
    (firstOffered AccountCall.directoryUrl AccountCall.created calls url)

/-- The folder after some calls. -/
def afterCalls
    (json : AcmeConfigJson)
    (folder : Folder)
    (calls : List (AccountCall codec)) : Folder :=
  final (fun current call => loadOrCreateAcmeAccount json call current)
    folder calls

/-- What one more call does to a file that has these accounts. -/
structure KeepsAccounts
    (json : AcmeConfigJson)
    (folder : Folder)
    (accounts : IndexMap Str (AcmeAccount codec))
    (calls : List (AccountCall codec))
    (later : IndexMap Str (AcmeAccount codec))
    (call : AccountCall codec) : Prop where
  others :
    ∃ next,
      HoldsAccounts json (afterCalls json folder (calls ++ [call])) next ∧
        ∀ url, url ≠ call.directoryUrl → next.get url = later.get url
  returned :
    ∀ account,
      (loadOrCreateAcmeAccount json call (afterCalls json folder calls)).1 =
          .ok account →
        firstAccount accounts (calls ++ [call]) call.directoryUrl =
          some account.stored
  loaded :
    ∀ stored account,
      later.get call.directoryUrl = some stored →
        call.service.builder = .ok () →
          call.service.fromParts stored.id stored.key call.directoryUrl =
              .ok account →
            (loadOrCreateAcmeAccount json call
              (afterCalls json folder calls)).1 = .ok account
  created :
    ∀ account privateKey,
      later.get call.directoryUrl = none →
        createAcmeAccount call = .ok (account, privateKey) →
          (loadOrCreateAcmeAccount json call
            (afterCalls json folder calls)).1 = .ok account
  failed :
    call.created = none →
      afterCalls json folder (calls ++ [call]) = afterCalls json folder calls

section Runs

variable {json : AcmeConfigJson} {folder : Folder}
variable {accounts : IndexMap Str (AcmeAccount codec)}
variable {calls : List (AccountCall codec)} {call : AccountCall codec}

theorem afterCalls_append_singleton :
    afterCalls json folder (calls ++ [call]) =
      (loadOrCreateAcmeAccount json call (afterCalls json folder calls)).2 :=
  final_append _ _ _ _

/-- The book of some calls has the first account of each URL. -/
theorem foldl_keepFirst_eq_firstAccount :
    calls.foldl (keepFirst AccountCall.directoryUrl AccountCall.created)
        accounts.get =
      firstAccount accounts calls :=
  funext fun url => foldl_keepFirst accounts.get calls url

theorem firstAccount_append_singleton :
    firstAccount accounts (calls ++ [call]) =
      keepFirst AccountCall.directoryUrl AccountCall.created
        (firstAccount accounts calls) call := by
  rw [← foldl_keepFirst_eq_firstAccount, List.foldl_append,
    foldl_keepFirst_eq_firstAccount]
  rfl

/-- After some calls the file has the first account of each URL. -/
theorem isBook_afterCalls
    (readsBack : json.ReadsBack codec)
    (holds : HoldsAccounts json folder accounts)
    (allSave : ∀ call ∈ calls, call.system.SavesAccounts) :
    IsBook json (afterCalls json folder calls) (firstAccount accounts calls) := by
  rw [← foldl_keepFirst_eq_firstAccount]
  exact isBook_final readsBack allSave ⟨accounts, holds, rfl⟩

theorem keepsAccounts
    (readsBack : json.ReadsBack codec)
    {later : IndexMap Str (AcmeAccount codec)}
    (holds : HoldsAccounts json (afterCalls json folder calls) later)
    (isFirst : later.get = firstAccount accounts calls)
    (saves : call.system.SavesAccounts)
    (restores : call.service.Restores) :
    KeepsAccounts json folder accounts calls later call := by
  obtain ⟨sameAnswer, next, holdsNext, isNext⟩ :=
    loadOrCreate_refines readsBack saves ⟨later, holds, rfl⟩
  constructor
  · rw [afterCalls_append_singleton]
    refine ⟨next, holdsNext, fun url differs => ?_⟩
    rw [isNext]
    exact Function.update_of_ne differs _ _
  · intro account isReturned
    rw [sameAnswer] at isReturned
    rw [firstAccount_append_singleton, ← isFirst]
    exact AccountBook.stored_of_loadOrCreate restores isReturned
  · intro stored account present builds isLoaded
    rw [sameAnswer, AccountBook.loadOrCreate]
    simp only [present, loadAcmeAccount, builds, isLoaded]
    rfl
  · intro account privateKey absent isCreated
    rw [sameAnswer, AccountBook.loadOrCreate]
    simp only [absent, isCreated]
    rfl
  · intro noNew
    rw [afterCalls_append_singleton]
    exact loadOrCreateAcmeAccount_of_created_eq_none call noNew

end Runs

/--
Over any calls the file has exactly one account for each URL that had one or for
which one was created, and it is the first.  Every further call returns the
account of its URL where that can be loaded, or the one that it creates where
there is none; what it returns is the first account of the URL.  It leaves the
accounts of other URLs, and the file when no account is created.
-/
theorem accountsKept
    {json : AcmeConfigJson}
    (readsBack : json.ReadsBack codec)
    {folder : Folder}
    {accounts : IndexMap Str (AcmeAccount codec)}
    (holds : HoldsAccounts json folder accounts)
    {calls : List (AccountCall codec)}
    (allSave : ∀ call ∈ calls, call.system.SavesAccounts) :
    ∃ later : IndexMap Str (AcmeAccount codec),
      HoldsAccounts json (afterCalls json folder calls) later ∧
      (∀ url, url ∈ later.keys ↔
        url ∈ accounts.keys ∨
          ∃ call ∈ calls,
            call.directoryUrl = url ∧ call.created.isSome = true) ∧
      (∀ url, later.get url = firstAccount accounts calls url) ∧
      ∀ call : AccountCall codec,
        call.system.SavesAccounts → call.service.Restores →
          KeepsAccounts json folder accounts calls later call := by
  obtain ⟨later, holdsLater, isFirst⟩ :=
    isBook_afterCalls readsBack holds allSave
  refine ⟨later, holdsLater, fun url => ?_, congrFun isFirst, ?_⟩
  · rw [IndexMap.mem_keys_iff, IndexMap.mem_keys_iff, isFirst, firstAccount,
      Option.isSome_or, Bool.or_eq_true_iff, isSome_firstOffered_iff]
  · intro call saves restores
    exact keepsAccounts readsBack holdsLater isFirst saves restores

section Sample

/-- The characters of the standard alphabet. -/
def standardChars : List Char :=
  "ABCDEFGHIJKLMNOPQRSTUVWXYZabcdefghijklmnopqrstuvwxyz0123456789+/".toList

/-- Standard base64, with padding. -/
def standardBase64 : Base64.GeneralPurpose where
  alphabet :=
    { char := standardChars.get
      injective := List.nodup_iff_injective_get.mp (by decide +kernel) }
  padding :=
    true
  printable sextet := by
    have isPrintable : ∀ character ∈ standardChars,
        33 ≤ character.toNat ∧ character.toNat < 127 := by
      decide +kernel
    have inRange := isPrintable _ (List.get_mem standardChars sextet)
    exact ⟨inRange.1, inRange.2⟩
  noPad sextet isPad := by
    have noPad : '=' ∉ standardChars := by
      decide +kernel
    exact noPad (isPad ▸ List.get_mem standardChars sextet)

/-- All bytes are taken for keys. -/
def sampleCodec : KeyCodec where
  base64 :=
    standardBase64.engine
  acceptsKey _ :=
    true

def sampleUrl : Str :=
  "https://acme.example/directory".toList

def sampleAccount : Account sampleCodec where
  id :=
    "https://acme.example/acct/1".toList
  key :=
    ⟨[48, 46, 2], rfl⟩
  directoryUrl :=
    sampleUrl

/-- The configuration after the first start. -/
def sampleConfig : AcmeConfig sampleCodec :=
  .v1 ⟨IndexMap.empty.insert sampleUrl sampleAccount.stored⟩

/-- The text that is written for it. -/
def sampleConfigText : Str :=
  '\x7b' :: (
    "\n  \"version\": \"1\",\n  \"data\": \x7b\n" ++
    "    \"accounts\": \x7b\n" ++
    "      \"https://acme.example/directory\": \x7b\n" ++
    "        \"id\": \"https://acme.example/acct/1\",\n" ++
    "        \"key\": \"MC4C\"\n" ++
    "      \x7d\n    \x7d\n  \x7d\n\x7d").toList

/-- What tells configurations apart, in numbers. -/
abbrev ConfigCode := List (List Nat × List Nat × List Nat)

def configCode : AcmeConfig sampleCodec → ConfigCode
  | .v1 config =>
      config.accounts.entries.map fun entry =>
        (entry.1.map Char.toNat, entry.2.id.map Char.toNat,
          entry.2.key.secretPkcs8Der.map UInt8.toNat)

def accountOfCode
    (code : List Nat × List Nat × List Nat) : Str × AcmeAccount sampleCodec :=
  (code.1.map Char.ofNat,
    ⟨code.2.1.map Char.ofNat, ⟨code.2.2.map UInt8.ofNat, rfl⟩⟩)

def configOfCode (code : ConfigCode) : AcmeConfig sampleCodec :=
  .v1 ⟨.ofEntries (code.map accountOfCode)⟩

theorem configOfCode_configCode (config : AcmeConfig sampleCodec) :
    configOfCode (configCode config) = config := by
  obtain ⟨⟨entries, distinct⟩⟩ := config
  have sameEntries :
      ((entries.map fun entry =>
        (entry.1.map Char.toNat, entry.2.id.map Char.toNat,
          entry.2.key.secretPkcs8Der.map UInt8.toNat)).map accountOfCode) =
        entries := by
    simp [Function.comp_def, accountOfCode, Char.ofNat_toNat]
  rw [configOfCode, configCode, sameEntries]
  exact congrArg (AcmeConfig.v1 ∘ AcmeConfigV1.mk)
    (IndexMap.ext (IndexMap.entries_ofEntries distinct))

/--
JSON that writes the sample as `serde_json` does, and another configuration as a
number, in unary.
-/
def sampleConfigJson : AcmeConfigJson where
  fromSlice content :=
    if content = Str.asBytes sampleConfigText then
      .ok sampleConfig.toValue
    else
      match (Encodable.decode content.length : Option ConfigCode) with
      | some code => .ok (configOfCode code).toValue
      | none => .error "expected value at line 1 column 1"
  toVecPretty value :=
    match AcmeConfig.fromValue sampleCodec value with
    | some config =>
        .ok (if configCode config = configCode sampleConfig then
          Str.asBytes sampleConfigText
        else
          List.replicate (Encodable.encode (configCode config)) 120)
    | none => .error "not written"
  mismatch _ :=
    "invalid type"

theorem sampleConfigJson_readsBack :
    sampleConfigJson.ReadsBack sampleCodec := by
  intro config
  simp only [sampleConfigJson, AcmeConfig.fromValue_toValue]
  refine ⟨_, rfl, ?_⟩
  by_cases same : configCode config = configCode sampleConfig
  · have isSample : config = sampleConfig := by
      rw [← configOfCode_configCode config, same, configOfCode_configCode]
    rw [if_pos same, if_pos rfl, isSample]
  · have differs (count : Nat) :
        List.replicate count 120 ≠ Str.asBytes sampleConfigText := by
      intro isText
      have isFirst : (123 : UInt8) ∈ List.replicate count 120 := by
        rw [isText, sampleConfigText, Str.asBytes, List.flatMap_cons]
        exact List.mem_append_left _ (List.mem_singleton_self _)
      cases (List.mem_replicate.mp isFirst).2
    rw [if_neg same, if_neg (differs _), List.length_replicate,
      Encodable.encodek]
    simp only [configOfCode_configCode]

/-- A first start, which creates the account. -/
def sampleCall : AccountCall sampleCodec where
  directoryUrl :=
    sampleUrl
  service :=
    { builder := .ok ()
      fromParts := fun id key url => .ok ⟨id, key, url⟩
      create := fun _ url =>
        .ok ({ sampleAccount with directoryUrl := url }, sampleAccount.key) }
  system :=
    { sampleSystem [] with
      write := fun name contents folder =>
        (.ok (), folder.write ⟨name, contents⟩) }

/-- A restart: had it to create an account, that would be another one. -/
def sampleRestart : AccountCall sampleCodec :=
  { sampleCall with
    service := { sampleCall.service with
      create := fun _ url =>
        .ok (⟨"https://acme.example/acct/2".toList, sampleAccount.key, url⟩,
          sampleAccount.key) } }

/-- The first start saves its account, and a restart returns it. -/
theorem accountsKept_sample :
    ∃ later : IndexMap Str (AcmeAccount sampleCodec),
      HoldsAccounts sampleConfigJson (afterCalls sampleConfigJson ∅ [sampleCall])
        later ∧
      later.get sampleUrl = some sampleAccount.stored ∧
      KeepsAccounts sampleConfigJson ∅ .empty [sampleCall] later
        sampleRestart ∧
      (loadOrCreateAcmeAccount sampleConfigJson sampleRestart
          (afterCalls sampleConfigJson ∅ [sampleCall])).1 =
        .ok sampleAccount := by
  have saves : sampleCall.system.SavesAccounts :=
    fun _ _ => rfl
  have restores : sampleRestart.service.Restores := by
    constructor
    · rintro id key url account ⟨⟩
      rfl
    · rintro newAccount url account key ⟨⟩
      rfl
  obtain ⟨later, holds, -, isFirst, keeps⟩ :=
    accountsKept sampleConfigJson_readsBack
      (.absent (AList.lookup_empty acmeConfigPath))
      (List.forall_mem_singleton.mpr saves)
  have present : later.get sampleUrl = some sampleAccount.stored := by
    have sameUrl : sampleCall.directoryUrl = sampleUrl := rfl
    rw [isFirst, firstAccount, firstOffered_cons, if_pos sameUrl]
    rfl
  have kept := keeps sampleRestart saves restores
  exact ⟨later, holds, present, kept, kept.loaded _ _ present rfl rfl⟩

end Sample

end Pingoo.Tls
