import Mathlib.Algebra.Group.Nat.Defs
import Mathlib.Data.List.Basic
import Mathlib.Data.Nat.Basic
import EpsilonChat.Lib.Eff

/-!
# Migrating an account

`migrate_account` enters a new account into the configuration, selects it, and then moves the files
of an existing account to the place of the new one.  Its code has a roll-back for a move that fails.
The moves stand in a BLOCK, though, not in a function of their own: the `?` of a move leaves
`migrate_account` at once, and the roll-back is never reached.

* `InnerConfig`: the contents of `accounts.toml`;
* `newAccount`, `removeAccount`, `selectAccount`: the operations on it, each written to the file;
* `Env`: what the file system does, call by call;
* `migrateAccount`: the call, with the roll-back where the source has it;
* **`rolledBack_iff`**: an error leaves the list and the selection as they were IFF it comes before
  the new account is entered.
-/

namespace EpsilonChat.Accounts

open Lib

/-! ## the configuration -/

abbrev Path := List String

def Path.display (p : Path) : String := String.intercalate "/" p

structure AccountConfig where
  id : ℕ
  dir : Path
  uuid : String
  deriving DecidableEq

structure InnerConfig where
  selectedAccount : ℕ
  nextId : ℕ
  accounts : List AccountConfig
  accountsOrder : List ℕ
  deriving DecidableEq

/-- what the file system and the contexts do; `n` is the number of the attempt -/
structure Env where
  fileExists : Path → Bool
  createDirAll : Path → Except String Unit
  rename : Path → Path → ℕ → Except String Unit
  removeDirAll : Path → ℕ → Except String Unit
  /-- `Config::sync` with these contents -/
  sync : InnerConfig → Except String Unit
  /-- `Context::new` -/
  newContext : Path → ℕ → Except String Unit
  uuid : String

abbrev Migration := Eff InnerConfig String

def propagate (r : Except String Unit) : Migration Unit := fun config => (config, r)

/-- `.context(e)`: the error that is shown is `e` -/
def context {α : Type} (x : Migration α) (e : String) : Migration α := fun config =>
  match x config with
  | (config', .ok a) => (config', .ok a)
  | (config', .error _) => (config', .error e)

section
variable (env : Env)

def sync : Migration Unit := do propagate (env.sync (← Eff.get))

def getAccount (config : InnerConfig) (id : ℕ) : Option AccountConfig :=
  config.accounts.find? fun a => a.id = id

def selectAccount (id : ℕ) : Migration Unit := do
  let config ← Eff.get
  Eff.ensure (config.accounts.any fun a => a.id = id) ("invalid account id: " ++ toString id)
  Eff.modify fun config => { config with selectedAccount := id }
  sync env

def enterAccount (config : InnerConfig) : InnerConfig :=
  { config with
    accounts := config.accounts ++ [⟨config.nextId, [env.uuid], env.uuid⟩]
    nextId := (config.nextId + 1) % 2 ^ 32
    accountsOrder := config.accountsOrder ++ [config.nextId] }

def newAccount : Migration AccountConfig := do
  let id := (← Eff.get).nextId
  Eff.modify (enterAccount env)
  sync env
  context (selectAccount env id) "failed to select just added account"
  match getAccount (← Eff.get) id with
  | none => Eff.fail "failed to get just added account"
  | some account => pure account

/-- `remove_account`, in memory: the first account with the id goes -/
def withoutAccount (config : InnerConfig) (id : ℕ) : InnerConfig :=
  let accounts := config.accounts.eraseP fun a => a.id = id
  { config with
    accounts := accounts
    accountsOrder := config.accountsOrder.filter fun x => x ≠ id
    selectedAccount :=
      if config.selectedAccount = id then (accounts.head?.map AccountConfig.id).getD 0
      else config.selectedAccount }

def removeAccount (id : ℕ) : Migration Unit := do
  Eff.modify fun config => withoutAccount config id
  sync env

end

/-! ## the call -/

/-- `try_many_times`: one attempt, and up to sixty more; `counter` attempts were made -/
def tryManyTimesFrom (f : ℕ → Except String Unit) : ℕ → ℕ → Except String Unit
  | 0, counter => f counter
  | more + 1, counter =>
    match f counter with
    | .ok () => .ok ()
    | .error _ => tryManyTimesFrom f more (counter + 1)

def tryManyTimes (f : ℕ → Except String Unit) : Except String Unit := tryManyTimesFrom f 60 0

def withSuffix (p : Path) (suffix : String) : Path :=
  p.dropLast ++ [(p.getLast?.getD "") ++ suffix]

def deriveBlobdir (dbfile : Path) : Path := withSuffix dbfile "-blobs"

def deriveWalfile (dbfile : Path) : Path := withSuffix dbfile "-wal"

def dbName : String := "dc.db"

def AccountConfig.dbfile (account : AccountConfig) (dir : Path) : Path := dir ++ account.dir ++ [dbName]

section
variable (env : Env) (dir : Path)

/-- the roll-back; the path of the directory is the relative one -/
def rollBack (account : AccountConfig) (oldId : ℕ) : Migration Unit := do
  context (propagate (tryManyTimes (env.removeDirAll account.dir))) "failed to remove account data"
  removeAccount env account.id
  selectAccount env oldId

def moveFiles (dbfile : Path) (account : AccountConfig) : Migration Unit := do
  let newDbfile := account.dbfile dir
  context (propagate (env.createDirAll (dir ++ account.dir))) "failed to create dir"
  context (propagate (tryManyTimes (env.rename dbfile newDbfile))) "failed to rename dbfile"
  context (propagate (tryManyTimes (env.rename (deriveBlobdir dbfile) (deriveBlobdir newDbfile))))
    "failed to rename blobdir"
  if env.fileExists (deriveWalfile dbfile) then
    context (propagate (env.rename (deriveWalfile dbfile) (deriveWalfile newDbfile) 0))
      "failed to rename walfile"

def migrateAccount (dbfile : Path) : Migration ℕ := do
  Eff.ensure (env.fileExists dbfile) ("no database found: " ++ dbfile.display)
  Eff.ensure (env.fileExists (deriveBlobdir dbfile))
    ("no blobdir found: " ++ (deriveBlobdir dbfile).display)
  let oldId := (← Eff.get).selectedAccount
  let account ← context (newAccount env) "failed to create new account"
  moveFiles env dir dbfile account
  -- what is left of the block is `Ok(())`
  let res : Except String Unit := .ok ()
  match res with
  | .ok () => do
    propagate (env.newContext (account.dbfile dir) account.id)
    pure account.id
  | .error e => do
    rollBack env account oldId
    Eff.fail e

end

/-! ## a new account -/

section
variable {env : Env}

theorem sync_eq (hsync : ∀ config, env.sync config = .ok ()) (config : InnerConfig) :
    sync env config = (config, .ok ()) := by
  show (config, env.sync config) = _
  rw [hsync]

theorem selectAccount_eq (hsync : ∀ config, env.sync config = .ok ()) {config : InnerConfig} {id : ℕ}
    (h : (config.accounts.any fun a => a.id = id) = true) :
    selectAccount env id config = ({ config with selectedAccount := id }, .ok ()) := by
  show (Eff.ensure (config.accounts.any fun a => a.id = id) _ >>= fun _ => _) config = _
  rw [h]
  exact sync_eq hsync _

/-- the account that `new_account` returns: the FIRST one with the new id -/
def addedAccount (env : Env) (config : InnerConfig) : AccountConfig :=
  (getAccount (enterAccount env config) config.nextId).getD ⟨config.nextId, [env.uuid], env.uuid⟩

theorem newAccount_eq (hsync : ∀ config, env.sync config = .ok ()) (config : InnerConfig) :
    newAccount env config = ({ enterAccount env config with selectedAccount := config.nextId },
      .ok (addedAccount env config)) := by
  have hany : ((enterAccount env config).accounts.any fun a => a.id = config.nextId) = true := by
    show ((config.accounts ++ [_]).any _) = true
    rw [List.any_append]
    exact Bool.or_eq_true_iff.mpr (.inr (by simp))
  obtain ⟨account, hfound⟩ : ∃ account,
      getAccount (enterAccount env config) config.nextId = some account := by
    obtain ⟨a, ha, hid⟩ := List.any_eq_true.mp hany
    exact Option.isSome_iff_exists.mp (List.find?_isSome.mpr ⟨a, ha, hid⟩)
  have hselect : context (selectAccount env config.nextId) "failed to select just added account"
      (enterAccount env config) =
        ({ enterAccount env config with selectedAccount := config.nextId }, .ok ()) := by
    rw [context, selectAccount_eq hsync hany]
  have hfound' : getAccount { enterAccount env config with selectedAccount := config.nextId }
      config.nextId = some account := hfound
  show (sync env >>= fun _ => _) (enterAccount env config) = _
  rw [Eff.bind_of_ok (sync_eq hsync _), Eff.bind_of_ok hselect, Eff.get_bind, hfound', addedAccount,
    hfound]
  rfl

end

/-! ## the moves -/

structure StepsSucceed (env : Env) (dir dbfile : Path) (account : AccountConfig) : Prop where
  createDir : env.createDirAll (dir ++ account.dir) = .ok ()
  renameDbfile : tryManyTimes (env.rename dbfile (account.dbfile dir)) = .ok ()
  renameBlobdir : tryManyTimes
    (env.rename (deriveBlobdir dbfile) (deriveBlobdir (account.dbfile dir))) = .ok ()
  renameWalfile : env.fileExists (deriveWalfile dbfile) = true →
    env.rename (deriveWalfile dbfile) (deriveWalfile (account.dbfile dir)) 0 = .ok ()

section
variable {env : Env} {dir dbfile : Path} {account : AccountConfig} {config : InnerConfig}

theorem context_propagate_cases (r : Except String Unit) (e : String) (config : InnerConfig) :
    (r = .ok () ∧ context (propagate r) e config = (config, .ok ())) ∨
      (r ≠ .ok () ∧ context (propagate r) e config = (config, .error e)) := by
  cases r with
  | ok u => exact .inl ⟨rfl, rfl⟩
  | error e' => exact .inr ⟨by simp, rfl⟩

theorem moveFiles_cases (env : Env) (dir dbfile : Path) (account : AccountConfig)
    (config : InnerConfig) :
    (StepsSucceed env dir dbfile account ∧ moveFiles env dir dbfile account config = (config, .ok ()))
    ∨ (¬ StepsSucceed env dir dbfile account ∧
      ∃ e, moveFiles env dir dbfile account config = (config, .error e)) := by
  unfold moveFiles
  rcases context_propagate_cases (env.createDirAll (dir ++ account.dir)) "failed to create dir" config
    with ⟨hdir, hrun⟩ | ⟨hdir, hrun⟩
  case inr => exact .inr ⟨fun h => hdir h.createDir, _, Eff.bind_of_error hrun _⟩
  rw [Eff.bind_of_ok hrun]
  rcases context_propagate_cases (tryManyTimes (env.rename dbfile (account.dbfile dir)))
    "failed to rename dbfile" config with ⟨hdb, hrun⟩ | ⟨hdb, hrun⟩
  case inr => exact .inr ⟨fun h => hdb h.renameDbfile, _, Eff.bind_of_error hrun _⟩
  rw [Eff.bind_of_ok hrun]
  rcases context_propagate_cases (tryManyTimes
    (env.rename (deriveBlobdir dbfile) (deriveBlobdir (account.dbfile dir))))
    "failed to rename blobdir" config with ⟨hblob, hrun⟩ | ⟨hblob, hrun⟩
  case inr => exact .inr ⟨fun h => hblob h.renameBlobdir, _, Eff.bind_of_error hrun _⟩
  rw [Eff.bind_of_ok hrun]
  by_cases hwal : env.fileExists (deriveWalfile dbfile) = true
  · rw [if_pos hwal]
    rcases context_propagate_cases (env.rename (deriveWalfile dbfile)
      (deriveWalfile (account.dbfile dir)) 0) "failed to rename walfile" config
      with ⟨hren, hrun⟩ | ⟨hren, hrun⟩
    · exact .inl ⟨⟨hdir, hdb, hblob, fun _ => hren⟩, hrun⟩
    · exact .inr ⟨fun h => hren (h.renameWalfile hwal), _, hrun⟩
  · rw [if_neg hwal]
    exact .inl ⟨⟨hdir, hdb, hblob, fun h => absurd h hwal⟩, rfl⟩

end

/-! ## the whole call -/

/-- an error leaves the list of accounts and the selected account as they were -/
def RolledBack (env : Env) (dir dbfile : Path) (config : InnerConfig) : Prop :=
  ∀ e, (migrateAccount env dir dbfile config).2 = .error e →
    (migrateAccount env dir dbfile config).1.accounts = config.accounts ∧
    (migrateAccount env dir dbfile config).1.selectedAccount = config.selectedAccount

section
variable {env : Env} {dir dbfile : Path} {config : InnerConfig}

theorem migrateAccount_missing (h : ¬ (env.fileExists dbfile = true ∧
      env.fileExists (deriveBlobdir dbfile) = true)) :
    (migrateAccount env dir dbfile config).1 = config := by
  unfold migrateAccount
  by_cases hdb : env.fileExists dbfile = true
  · have hblob : env.fileExists (deriveBlobdir dbfile) = false := by
      rw [← Bool.not_eq_true]
      exact fun hblob => h ⟨hdb, hblob⟩
    rw [hdb, hblob]
    rfl
  · rw [Bool.not_eq_true] at hdb
    rw [hdb]
    rfl

theorem migrateAccount_found (dir : Path) (config : InnerConfig)
    (hsync : ∀ config, env.sync config = .ok ())
    (hdb : env.fileExists dbfile = true) (hblob : env.fileExists (deriveBlobdir dbfile) = true) :
    migrateAccount env dir dbfile config = (do
      moveFiles env dir dbfile (addedAccount env config)
      propagate (env.newContext ((addedAccount env config).dbfile dir) (addedAccount env config).id)
      pure (addedAccount env config).id : Migration ℕ)
        { enterAccount env config with selectedAccount := config.nextId } := by
  have hnew : context (newAccount env) "failed to create new account" config =
      ({ enterAccount env config with selectedAccount := config.nextId },
        .ok (addedAccount env config)) := by
    rw [context, newAccount_eq hsync]
  unfold migrateAccount
  rw [hdb, hblob]
  show (context (newAccount env) _ >>= fun _ => _) config = _
  rw [Eff.bind_of_ok hnew]

end

/-- **an error leaves the accounts as they were iff it comes before the new account is entered**: if a
move fails, or the new context, the new account stays in the list -/
theorem rolledBack_iff (env : Env) (dir dbfile : Path) (config : InnerConfig)
    (hsync : ∀ config, env.sync config = .ok ()) :
    RolledBack env dir dbfile config ↔
      ¬ (env.fileExists dbfile = true ∧ env.fileExists (deriveBlobdir dbfile) = true) ∨
      (StepsSucceed env dir dbfile (addedAccount env config) ∧
        env.newContext ((addedAccount env config).dbfile dir) (addedAccount env config).id =
          .ok ()) := by
  by_cases hfiles : env.fileExists dbfile = true ∧ env.fileExists (deriveBlobdir dbfile) = true
  case neg =>
    refine iff_of_true ?_ (.inl hfiles)
    intro e _
    rw [migrateAccount_missing hfiles]
    exact ⟨rfl, rfl⟩
  case pos =>
    have hlonger : ∀ e, (migrateAccount env dir dbfile config) =
        ({ enterAccount env config with selectedAccount := config.nextId }, .error e) →
          ¬ RolledBack env dir dbfile config := by
      intro e hrun hback
      have hlist := (hback e (by rw [hrun])).1
      rw [hrun] at hlist
      exact absurd hlist (by simp [enterAccount])
    have hrun := migrateAccount_found dir config hsync hfiles.1 hfiles.2
    rw [or_iff_right (not_not.mpr hfiles)]
    rcases moveFiles_cases env dir dbfile (addedAccount env config)
      { enterAccount env config with selectedAccount := config.nextId } with
      ⟨hsteps, hmove⟩ | ⟨hsteps, e, hmove⟩
    · rw [Eff.bind_of_ok hmove] at hrun
      rcases hctx : env.newContext ((addedAccount env config).dbfile dir)
        (addedAccount env config).id with e | u
      · rw [hctx] at hrun
        refine iff_of_false (hlonger e hrun) ?_
        rintro ⟨-, hok⟩
        cases hok
      · rw [hctx] at hrun
        refine iff_of_true ?_ ⟨hsteps, rfl⟩
        intro e herr
        rw [hrun] at herr
        cases herr
    · rw [Eff.bind_of_error hmove] at hrun
      exact iff_of_false (hlonger e hrun) fun h => hsteps h.1

def oneAccount : InnerConfig := ⟨1, 2, [⟨1, ["one"], "one"⟩], [1]⟩

def faultless : Env where
  fileExists _ := true
  createDirAll _ := .ok ()
  rename _ _ _ := .ok ()
  removeDirAll _ _ := .ok ()
  sync _ := .ok ()
  newContext _ _ := .ok ()
  uuid := "two"

theorem rolledBack_iff_faultless : RolledBack faultless ["accounts"] ["old", "dc.db"] oneAccount :=
  (rolledBack_iff faultless ["accounts"] ["old", "dc.db"] oneAccount fun _ => rfl).mpr
    (.inr ⟨⟨rfl, rfl, rfl, fun _ => rfl⟩, rfl⟩)

def otherDisk : Env := { faultless with rename := fun _ _ _ => .error "cross-device link" }

/-- **the database cannot be moved**: the call fails, and the account without files stays in the list
and is selected -/
theorem migrateAccount_stays :
    migrateAccount otherDisk ["accounts"] ["old", "dc.db"] oneAccount =
      (⟨2, 3, [⟨1, ["one"], "one"⟩, ⟨2, ["two"], "two"⟩], [1, 2]⟩, .error "failed to rename dbfile") ∧
    ¬ RolledBack otherDisk ["accounts"] ["old", "dc.db"] oneAccount := by
  have hrun : migrateAccount otherDisk ["accounts"] ["old", "dc.db"] oneAccount =
      (⟨2, 3, [⟨1, ["one"], "one"⟩, ⟨2, ["two"], "two"⟩], [1, 2]⟩,
        .error "failed to rename dbfile") := rfl
  refine ⟨hrun, ?_⟩
  intro hback
  have hselected := (hback _ (congrArg Prod.snd hrun)).2
  rw [hrun] at hselected
  cases hselected

end EpsilonChat.Accounts
