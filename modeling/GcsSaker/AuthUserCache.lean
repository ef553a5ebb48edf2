import GcsSaker.Runs
import GcsSaker.UserAdministration
import GcsSaker.WriteThrough

/-!
# The cache of users

`CachedAuthUserRepository` keeps users by their username and by their e-mail address in two maps,
in front of another repository. Writes hold a lock while they go through to the delegate and put
what they got; reads put what they have read without the lock. A call of the delegate is one step,
and so is each put.
-/

namespace GcsSaker.AuthUserCache

open Groups (AuthUser AuthUsers GroupId Thrown UserRole)
open WriteThrough (Coherent Covers Current)

/-! ## Repositories -/

structure Platform extends Groups.Platform where
  lowercase_lowercase : ∀ text, lowercase (lowercase text) = lowercase text

/-- A repository with states in `σ`, which finds an e-mail address in whatever case. -/
structure AuthUserRepository (platform : Platform) (σ : Type) where
  findByUsername : σ → String → Option AuthUser
  findByEmail : σ → String → Option AuthUser
  list : σ → List AuthUser
  listByGroup : σ → GroupId → ℤ → ℤ → Except Thrown (List AuthUser)
  save : AuthUser → σ → Except Thrown AuthUser × σ
  update : AuthUser → σ → Except Thrown AuthUser × σ
  replaceGroupAdmin : GroupId → String → σ → Except Thrown AuthUser × σ
  findByEmail_lowercase : ∀ users email,
    findByEmail users (platform.lowercase email) = findByEmail users email

inductive Query where
  | findByUsername (username : String)
  | findByEmail (email : String)
  | list
  | listByGroup (groupId : GroupId) (limit offset : ℤ)

inductive Answer where
  | user (found : Option AuthUser)
  | users (found : List AuthUser)
  deriving DecidableEq

inductive Write where
  | save (user : AuthUser)
  | update (user : AuthUser)
  | replaceGroupAdmin (groupId : GroupId) (username : String)

def Answer.toList : Answer → List AuthUser
  | .user found => found.toList
  | .users found => found

/-- A key of `usersByUsername` or of `usersByEmail`. -/
inductive Key where
  | username (username : String)
  | email (email : String)
  deriving DecidableEq

def Query.key (platform : Platform) : Query → Option Key
  | findByUsername username => some (.username username)
  | findByEmail email => some (.email (platform.lowercase email))
  | _ => none

namespace AuthUserRepository

variable {platform : Platform} {σ : Type} (repository : AuthUserRepository platform σ)

def find (users : σ) : Key → Option AuthUser
  | .username username => repository.findByUsername users username
  | .email email => repository.findByEmail users email

def ask (users : σ) : Query → Except Thrown Answer
  | .findByUsername username => .ok (.user (repository.findByUsername users username))
  | .findByEmail email => .ok (.user (repository.findByEmail users email))
  | .list => .ok (.users (repository.list users))
  | .listByGroup groupId limit offset =>
    (repository.listByGroup users groupId limit offset).map .users

def write (users : σ) : Write → Except Thrown AuthUser × σ
  | .save user => repository.save user users
  | .update user => repository.update user users
  | .replaceGroupAdmin groupId username => repository.replaceGroupAdmin groupId username users

theorem ask_of_key {users : σ} {query : Query} {key : Key} (h : query.key platform = some key) :
    repository.ask users query = .ok (.user (repository.find users key)) := by
  cases query with
  | findByUsername username => cases h; rfl
  | findByEmail email =>
      cases h
      rw [ask, find, repository.findByEmail_lowercase]
  | list => cases h
  | listByGroup groupId limit offset => cases h

end AuthUserRepository

/-! ## The calls -/

/-- A user is put into `usersByUsername`, or into `usersByEmail`. -/
inductive Put where
  | username (user : AuthUser)
  | email (user : AuthUser)

def Put.user : Put → AuthUser
  | username user => user
  | email user => user

def Put.key (platform : Platform) : Put → Key
  | username user => .username user.username
  | email user => .email (platform.lowercase user.email)

/-- A read that found nothing in the maps, or looked for more than one user. -/
inductive Reader where
  | asking (query : Query)
  | caching (puts : List Put) (answer : Answer)

/-- The call that holds the lock. Once the delegate has changed, `before` is its state from before
the change. -/
inductive Writer (σ : Type) where
  | writing (write : Write)
  | listing (before : σ) (groupId : GroupId) (replaced : AuthUser)
  | caching (before : σ) (puts : List Put) (answer : AuthUser)

structure State (σ : Type) where
  delegate : σ
  usersByUsername : String → Option AuthUser
  usersByEmail : String → Option AuthUser
  readers : ℕ → Option Reader
  writer : Option (Writer σ)

def State.initial {σ : Type} (users : σ) : State σ where
  delegate := users
  usersByUsername _ := none
  usersByEmail _ := none
  readers _ := none
  writer := none

/-- What calls do next. In `look`, `ask`, `cache` and `leave` it is a read with the given number;
in the others it is the write that holds the lock, or takes it in `enter`. With an outage the
delegate throws. -/
inductive Action where
  | look (call : ℕ) (query : Query)
  | ask (call : ℕ) (outage : Option Thrown)
  | cache (call : ℕ)
  | leave (call : ℕ)
  | enter (write : Write)
  | write
  | list (outage : Option Thrown)
  | refill
  | exit

namespace State

variable {σ : Type} (platform : Platform) (s : State σ)

def cached : Key → Option AuthUser
  | .username username => s.usersByUsername username
  | .email email => s.usersByEmail email

def put (put : Put) : State σ :=
  { s with
    usersByUsername := match put with
      | .username user => Function.update s.usersByUsername user.username (some user)
      | .email _ => s.usersByUsername
    usersByEmail := match put with
      | .username _ => s.usersByEmail
      | .email user =>
        Function.update s.usersByEmail (platform.lowercase user.email) (some user) }

def setReader (call : ℕ) (reader : Option Reader) : State σ :=
  { s with readers := Function.update s.readers call reader }

@[simp] theorem readers_setReader (call : ℕ) (reader : Option Reader) :
    (s.setReader call reader).readers call = reader := Function.update_self ..

@[simp] theorem cached_put (put : Put) :
    (s.put platform put).cached =
      Function.update s.cached (put.key platform) (some put.user) := by
  funext key
  cases put with
  | username user =>
      rw [Put.key, Put.user]
      cases key with
      | username username =>
          by_cases h : username = user.username
          · subst h
            rw [Function.update_self]
            exact Function.update_self ..
          · rw [Function.update_of_ne fun heq => h (Key.username.inj heq)]
            exact Function.update_of_ne h ..
      | email email => rfl
  | email user =>
      rw [Put.key, Put.user]
      cases key with
      | username username => rfl
      | email email =>
          by_cases h : email = platform.lowercase user.email
          · subst h
            rw [Function.update_self]
            exact Function.update_self ..
          · rw [Function.update_of_ne fun heq => h (Key.email.inj heq)]
            exact Function.update_of_ne h ..

end State

namespace CachedAuthUserRepository

variable {platform : Platform} {σ : Type} (delegate : AuthUserRepository platform σ) (s : State σ)

/-- What `cache` puts into the maps, in its order. -/
def puts (user : AuthUser) : List Put := [.username user, .email user]

/-! ## Reads -/

/-- The user that a read finds in the map it looks into. -/
def hit (platform : Platform) (s : State σ) (query : Query) : Option AuthUser :=
  (query.key platform).bind s.cached

def look (platform : Platform) (s : State σ) (call : ℕ) (query : Query) : Option (State σ) :=
  match s.readers call, hit platform s query with
  | some _, _ => none
  | none, some _ => some s
  | none, none => some (s.setReader call (some (.asking query)))

def ask (call : ℕ) (outage : Option Thrown) : Option (State σ) :=
  match s.readers call with
  | some (.asking query) =>
    match outage, delegate.ask s.delegate query with
    | none, .ok answer =>
      some (s.setReader call (some (.caching (answer.toList.flatMap puts) answer)))
    | _, _ => some (s.setReader call none)
  | _ => none

def cache (platform : Platform) (s : State σ) (call : ℕ) : Option (State σ) :=
  match s.readers call with
  | some (.caching (put :: rest) answer) =>
    some ((s.put platform put).setReader call (some (.caching rest answer)))
  | _ => none

def leave (call : ℕ) : Option (State σ) :=
  match s.readers call with
  | some (.caching [] _) => some (s.setReader call none)
  | _ => none

/-! ## Writes -/

def enter (write : Write) : Option (State σ) :=
  match s.writer with
  | none => some { s with writer := some (.writing write) }
  | some _ => none

/-- How a write goes on that the delegate has made. -/
def written (before : σ) (user : AuthUser) : Write → Writer σ
  | .replaceGroupAdmin groupId _ => .listing before groupId user
  | _ => .caching before (puts user) user

def write : Option (State σ) :=
  match s.writer with
  | some (.writing write) =>
    match delegate.write s.delegate write with
    | (.error _, after) => some { s with delegate := after, writer := none }
    | (.ok user, after) =>
      some { s with delegate := after, writer := some (written s.delegate user write) }
  | _ => none

def list (outage : Option Thrown) : Option (State σ) :=
  match s.writer with
  | some (.listing before groupId replaced) =>
    match outage, delegate.listByGroup s.delegate groupId 500 0 with
    | none, .ok users =>
      some { s with writer := some (.caching before (users.flatMap puts) replaced) }
    | _, _ => some { s with writer := none }
  | _ => none

def refill (platform : Platform) (s : State σ) : Option (State σ) :=
  match s.writer with
  | some (.caching before (put :: rest) answer) =>
    some { s.put platform put with writer := some (.caching before rest answer) }
  | _ => none

def exit : Option (State σ) :=
  match s.writer with
  | some (.caching _ [] _) => some { s with writer := none }
  | _ => none

def step : Action → Option (State σ)
  | .look call query => look platform s call query
  | .ask call outage => ask delegate s call outage
  | .cache call => cache platform s call
  | .leave call => leave s call
  | .enter write => enter s write
  | .write => write delegate s
  | .list outage => list delegate s outage
  | .refill => refill platform s
  | .exit => exit s

/-! ## What reads get -/

/-- The state of the delegate before the write that is under way, if it has changed it. -/
def settled : σ :=
  match s.writer with
  | some (.listing before _ _) => before
  | some (.caching before _ _) => before
  | _ => s.delegate

/-- The answer that a read gets, from a map or from the delegate. -/
inductive Gets : Action → Query → Answer → Prop
  | hit {call : ℕ} {query : Query} {user : AuthUser} (hcall : s.readers call = none)
      (hhit : hit platform s query = some user) :
      Gets (.look call query) query (.user (some user))
  | asked {call : ℕ} {outage : Option Thrown} {query : Query} {s' : State σ} {puts : List Put}
      {answer : Answer} (hasking : s.readers call = some (.asking query))
      (hask : ask delegate s call outage = some s')
      (hanswer : s'.readers call = some (.caching puts answer)) :
      Gets (.ask call outage) query answer

/-- A read gets what the delegate answers, or answered before the write that is under way. -/
def Transparent (action : Action) : Prop :=
  ∀ query answer, Gets delegate s action query answer →
    delegate.ask s.delegate query = .ok answer ∨ delegate.ask (settled s) query = .ok answer

/-! ## What a write has to put -/

/-- What `replaceGroupAdmin` puts after the delegate has replaced the administrator. -/
def refills (users : σ) (groupId : GroupId) : List Put :=
  match delegate.listByGroup users groupId 500 0 with
  | .ok users => users.flatMap puts
  | .error _ => []

/-- What a write puts that the delegate has made. -/
def putsOf (after : σ) (user : AuthUser) : Write → List Put
  | .replaceGroupAdmin groupId _ => refills delegate after groupId
  | _ => puts user

/-- What the write under way has yet to put. -/
def pending : List Put :=
  match s.writer with
  | some (.listing _ groupId _) => refills delegate s.delegate groupId
  | some (.caching _ puts _) => puts
  | _ => []

/-- What the write puts are answers of the delegate, and nothing is cached besides them that the
delegate has ceased to answer. -/
def Refilled (after : σ) (puts : List Put) : Prop :=
  (∀ put ∈ puts, delegate.find after (put.key platform) = some put.user) ∧
    Covers s.cached (delegate.find after) (puts.map (Put.key platform))

/-- A read puts a user that the delegate still answers, or has ceased to by a write that has yet to
put the same key. What the delegate ceases to answer in a write, the write puts, and no outage keeps
it from that. -/
def Covered : Action → Prop
  | .cache call => ∀ put rest answer, s.readers call = some (.caching (put :: rest) answer) →
    Current (delegate.find s.delegate) (delegate.find (settled s))
      ((pending delegate s).map (Put.key platform)) (put.key platform) put.user
  | .write => ∀ write, s.writer = some (.writing write) →
    match delegate.write s.delegate write with
    | (.error _, after) => Refilled delegate s after []
    | (.ok user, after) => Refilled delegate s after (putsOf delegate after user write)
  | .list outage => outage.isSome → ∀ before groupId replaced,
    s.writer = some (.listing before groupId replaced) → Refilled delegate s s.delegate []
  | _ => True

/-! ## What every step keeps -/

structure Inv : Prop where
  coherent : Coherent (delegate.find s.delegate) (delegate.find (settled s))
    ((pending delegate s).map (Put.key platform)) s.cached
  pending : ∀ put ∈ pending delegate s, delegate.find s.delegate (put.key platform) = some put.user

section Steps

variable {delegate s} {s' : State σ} {call : ℕ} {action : Action}

theorem inv_initial (users : σ) : Inv delegate (.initial users) where
  coherent key user hcached := by cases key <;> cases hcached
  pending put hput := by cases hput

theorem Inv.setReader (h : Inv delegate s) (call : ℕ) (reader : Option Reader) :
    Inv delegate (s.setReader call reader) := ⟨h.coherent, h.pending⟩

theorem inv_look {query : Query} (h : Inv delegate s)
    (hstep : look platform s call query = some s') : Inv delegate s' := by
  unfold look at hstep
  split at hstep
  · cases hstep
  · obtain rfl := Option.some.inj hstep
    exact h
  · obtain rfl := Option.some.inj hstep
    exact h.setReader call _

theorem ask_cases {outage : Option Thrown} (hstep : ask delegate s call outage = some s') :
    ∃ query, s.readers call = some (.asking query) ∧
      (s' = s.setReader call none ∨ ∃ answer, delegate.ask s.delegate query = .ok answer ∧
        s' = s.setReader call
          (some (.caching (answer.toList.flatMap puts) answer))) := by
  unfold ask at hstep
  split at hstep
  · next query hasking =>
      refine ⟨query, hasking, ?_⟩
      split at hstep
      · next answer hanswer => exact .inr ⟨answer, hanswer, (Option.some.inj hstep).symm⟩
      · exact .inl (Option.some.inj hstep).symm
  · cases hstep

theorem inv_ask {outage : Option Thrown} (h : Inv delegate s)
    (hstep : ask delegate s call outage = some s') : Inv delegate s' := by
  obtain ⟨query, -, rfl | ⟨answer, -, rfl⟩⟩ := ask_cases hstep
  · exact h.setReader call _
  · exact h.setReader call _

theorem inv_cache (h : Inv delegate s) (hcovered : Covered delegate s (.cache call))
    (hstep : cache platform s call = some s') : Inv delegate s' := by
  unfold cache at hstep
  split at hstep
  · next put rest answer hcaching =>
      obtain rfl := Option.some.inj hstep
      refine Inv.setReader ⟨?_, ?_⟩ call _
      · rw [State.cached_put]
        exact h.coherent.fill (hcovered put rest answer hcaching)
      · exact h.pending
  · cases hstep

theorem inv_leave (h : Inv delegate s) (hstep : leave s call = some s') : Inv delegate s' := by
  unfold leave at hstep
  split at hstep
  · obtain rfl := Option.some.inj hstep
    exact h.setReader call none
  · cases hstep

theorem inv_enter {write : Write} (h : Inv delegate s) (hstep : enter s write = some s') :
    Inv delegate s' := by
  unfold enter at hstep
  split at hstep
  · next hwriter =>
      obtain rfl := Option.some.inj hstep
      obtain ⟨hcoherent, -⟩ := h
      rw [settled, CachedAuthUserRepository.pending, hwriter] at hcoherent
      exact ⟨hcoherent, fun put hput => by cases hput⟩
  · cases hstep

/-- The write leaves, with the delegate as it is. -/
theorem inv_free (users : σ)
    (hcoherent : Coherent (delegate.find users) (delegate.find users) [] s.cached) :
    Inv delegate { s with delegate := users, writer := none } :=
  ⟨hcoherent, fun put hput => by cases hput⟩

theorem inv_write (h : Inv delegate s) (hcovered : Covered delegate s .write)
    (hstep : write delegate s = some s') : Inv delegate s' := by
  unfold write at hstep
  split at hstep
  · next write hwriter =>
      have hcoherent := h.coherent
      rw [settled, CachedAuthUserRepository.pending, hwriter] at hcoherent
      have hrefilled := hcovered write hwriter
      split at hstep
      · next cause after hwrite =>
          obtain rfl := Option.some.inj hstep
          rw [hwrite] at hrefilled
          exact inv_free after (hcoherent.change hrefilled.2).settle
      · next user after hwrite =>
          obtain rfl := Option.some.inj hstep
          rw [hwrite] at hrefilled
          have hchanged := hcoherent.change hrefilled.2
          cases write with
          | save saved => exact ⟨hchanged, hrefilled.1⟩
          | update updated => exact ⟨hchanged, hrefilled.1⟩
          | replaceGroupAdmin groupId username => exact ⟨hchanged, hrefilled.1⟩
  · cases hstep

theorem inv_list {outage : Option Thrown} (h : Inv delegate s)
    (hcovered : Covered delegate s (.list outage)) (hstep : list delegate s outage = some s') :
    Inv delegate s' := by
  unfold list at hstep
  split at hstep
  · next before groupId replaced hwriter =>
      obtain ⟨hcoherent, hpending⟩ := h
      rw [settled, CachedAuthUserRepository.pending, hwriter] at hcoherent
      rw [CachedAuthUserRepository.pending, hwriter] at hpending
      dsimp only [refills] at hcoherent hpending
      cases outage with
      | some cause =>
          obtain rfl := Option.some.inj hstep
          have hrefilled := hcovered rfl before groupId replaced hwriter
          exact inv_free s.delegate fun key user hcached => .inl
            ((hrefilled.2 key user hcached).resolve_right List.not_mem_nil)
      | none =>
          cases hlist : delegate.listByGroup s.delegate groupId 500 0 with
          | ok users =>
              rw [hlist] at hstep hcoherent hpending
              obtain rfl := Option.some.inj hstep
              exact ⟨hcoherent, hpending⟩
          | error cause =>
              rw [hlist] at hstep hcoherent
              obtain rfl := Option.some.inj hstep
              exact inv_free s.delegate hcoherent.settle
  · cases hstep

theorem inv_refill (h : Inv delegate s) (hstep : refill platform s = some s') :
    Inv delegate s' := by
  unfold refill at hstep
  split at hstep
  · next before put rest answer hwriter =>
      obtain rfl := Option.some.inj hstep
      obtain ⟨hcoherent, hpending⟩ := h
      rw [settled, CachedAuthUserRepository.pending, hwriter] at hcoherent
      rw [CachedAuthUserRepository.pending, hwriter] at hpending
      obtain ⟨hput, hrest⟩ := List.forall_mem_cons.1 hpending
      refine ⟨?_, hrest⟩
      have hcached : State.cached
          { s.put platform put with writer := some (.caching before rest answer) } =
          (s.put platform put).cached := by
        funext key
        cases key <;> rfl
      rw [hcached, State.cached_put]
      exact hcoherent.put hput
  · cases hstep

theorem inv_exit (h : Inv delegate s) (hstep : exit s = some s') : Inv delegate s' := by
  unfold exit at hstep
  split at hstep
  · next before answer hwriter =>
      obtain rfl := Option.some.inj hstep
      have hcoherent := h.coherent
      rw [settled, CachedAuthUserRepository.pending, hwriter] at hcoherent
      exact inv_free s.delegate hcoherent.settle
  · cases hstep

theorem inv_step (h : Inv delegate s) (hcovered : Covered delegate s action)
    (hstep : step delegate s action = some s') : Inv delegate s' := by
  cases action with
  | look call query => exact inv_look h hstep
  | ask call outage => exact inv_ask h hstep
  | cache call => exact inv_cache h hcovered hstep
  | leave call => exact inv_leave h hstep
  | enter write => exact inv_enter h hstep
  | write => exact inv_write h hcovered hstep
  | list outage => exact inv_list h hcovered hstep
  | refill => exact inv_refill h hstep
  | exit => exact inv_exit h hstep

/-! ## The keys of the addresses -/

def Lowercased (platform : Platform) (s : State σ) : Prop :=
  ∀ email user, s.usersByEmail email = some user → platform.lowercase email = email

/-! ## All runs -/

theorem transparent_of_inv (h : Inv delegate s) (action : Action) :
    Transparent delegate s action := by
  rintro query answer (⟨hcall, hhit⟩ | ⟨hasking, hask, hanswer⟩)
  · obtain ⟨key, hkey, hcached⟩ := Option.bind_eq_some_iff.1 hhit
    rw [delegate.ask_of_key hkey, delegate.ask_of_key hkey]
    rcases h.coherent key _ hcached with hnow | ⟨hbefore, -⟩
    · exact .inl (by rw [hnow])
    · exact .inr (by rw [hbefore])
  · obtain ⟨query', hquery, rfl | ⟨answer', hanswer', rfl⟩⟩ := ask_cases hask
    · rw [State.readers_setReader] at hanswer
      cases hanswer
    · rw [State.readers_setReader] at hanswer
      cases hanswer
      cases hasking.symm.trans hquery
      exact .inl hanswer'

end Steps

/-- From empty maps, a run whose steps are covered is transparent, whatever the delegate. -/
theorem reads_transparent (users : σ) (actions : List Action)
    (hcovered : Runs.Along (step delegate) (Covered delegate) (.initial users) actions) :
    Runs.Along (step delegate) (Transparent delegate) (.initial users) actions :=
  Runs.along_of_invariant (fun _ _ _ h hcovers hstep => inv_step h hcovers hstep)
    (fun _ action h _ => transparent_of_inv h action) (inv_initial users) hcovered

end CachedAuthUserRepository

/-! ## The users in the database -/

/-- The rows of `auth_users`, whose e-mail addresses are unique and stored in lower case. -/
structure AuthUserTable (platform : Platform) extends AuthUsers where
  uniqueEmails : (rows.map AuthUser.email).Nodup
  lowercased : ∀ row ∈ rows, platform.lowercase row.email = row.email

/-- What the database decides: the ids it generates, the order of usernames, the rows that the
other constraints of the table admit, and what it throws for a negative limit or offset. -/
structure Database where
  generatedId : List AuthUser → ℕ
  notAfter : String → String → Bool
  admits : List AuthUser → Bool
  negativePage : Thrown

namespace JdbcAuthUserRepository

variable {platform : Platform}

def findByEmail (users : AuthUserTable platform) (email : String) : Option AuthUser :=
  KeyedDelta.find AuthUser.email (platform.lowercase email) users.rows

theorem lowercase_updateRow (user : AuthUser) :
    platform.lowercase (AuthUsers.updateRow platform.toPlatform user).email =
      (AuthUsers.updateRow platform.toPlatform user).email :=
  platform.lowercase_lowercase user.email

theorem mem_overwrite (users : AuthUsers) {row row' : AuthUser} :
    row' ∈ (users.overwrite [row]).rows ↔
      (row' = row ∧ row.username ∈ users.rows.map AuthUser.username) ∨
        (row' ∈ users.rows ∧ row'.username ≠ row.username) := by
  have hrows : ([row].map AuthUser.username).Nodup := List.nodup_singleton _
  rw [AuthUsers.overwrite, KeyedDelta.mem_overwrite hrows, List.map_singleton,
    List.mem_singleton, List.mem_singleton]
  refine or_congr_left (and_congr_right fun h => ?_)
  rw [h]

/-- A row after `AuthUserSql.demoteGroupAdmin`. -/
def demoted (groupId : GroupId) (username : String) (row : AuthUser) : AuthUser :=
  if AuthUsers.Demotable groupId username row then row.copy .demoted else row

@[simp] theorem demoted_username (groupId : GroupId) (username : String) (row : AuthUser) :
    (demoted groupId username row).username = row.username := by
  unfold demoted
  split <;> rfl

@[simp] theorem demoted_email (groupId : GroupId) (username : String) (row : AuthUser) :
    (demoted groupId username row).email = row.email := by
  unfold demoted
  split <;> rfl

theorem map_demoted {α : Type} (field : AuthUser → α) {groupId : GroupId} {username : String}
    (h : ∀ row, field (demoted groupId username row) = field row) (rows : List AuthUser) :
    (rows.map (demoted groupId username)).map field = rows.map field := by
  rw [List.map_map]
  exact List.map_congr_left fun row _ => h row

def demoteGroupAdmin (users : AuthUserTable platform) (groupId : GroupId) (username : String) :
    AuthUserTable platform where
  rows := users.rows.map (demoted groupId username)
  unique := by
    rw [map_demoted AuthUser.username (demoted_username groupId username)]
    exact users.unique
  uniqueEmails := by
    rw [map_demoted AuthUser.email (demoted_email groupId username)]
    exact users.uniqueEmails
  lowercased := by
    intro row hrow
    obtain ⟨row, hold, rfl⟩ := List.mem_map.1 hrow
    rw [demoted_email]
    exact users.lowercased row hold

section Writes

variable (database : Database) (users : AuthUserTable platform)

def listByGroup (groupId : GroupId) (limit offset : ℤ) : Except Thrown (List AuthUser) :=
  if limit < 0 ∨ offset < 0 then .error database.negativePage
  else .ok (((users.rows.filter fun row => row.groupId = groupId).drop offset.toNat).take
    limit.toNat)

def writeFailed : Thrown := .runtime "auth_user_write_failed"

def inserted (row : AuthUser) : List AuthUser :=
  users.rows.orderedInsert (fun row row' => database.notAfter row.username row'.username) row

def withId (user : AuthUser) : AuthUser :=
  if 0 < user.id then user else { user with id := database.generatedId users.rows }

@[simp] theorem withId_email (user : AuthUser) :
    (withId database users user).email = user.email := by
  unfold withId
  split <;> rfl

/-- A row that shares its id, username or e-mail address with another is a duplicate. -/
def save (user : AuthUser) : Except Thrown AuthUser × AuthUserTable platform :=
  let saved := withId database users user
  let row := AuthUsers.updateRow platform.toPlatform saved
  if h : row.id ∉ users.rows.map AuthUser.id ∧ row.username ∉ users.rows.map AuthUser.username ∧
      row.email ∉ users.rows.map AuthUser.email then
    if database.admits (inserted database users row) then (.ok saved,
      { rows := inserted database users row
        unique := ((List.perm_orderedInsert _ row users.rows).map AuthUser.username).nodup_iff.2
          (List.nodup_cons.2 ⟨h.2.1, users.unique⟩)
        uniqueEmails := ((List.perm_orderedInsert _ row users.rows).map AuthUser.email).nodup_iff.2
          (List.nodup_cons.2 ⟨h.2.2, users.uniqueEmails⟩)
        lowercased := fun row' hrow' => by
          rcases List.mem_cons.1 ((List.perm_orderedInsert _ row users.rows).subset hrow')
            with rfl | hold
          · exact lowercase_updateRow saved
          · exact users.lowercased row' hold })
    else (.error writeFailed, users)
  else (.error (.illegalArgument "Username or email already registered"), users)

def update (user : AuthUser) : Except Thrown AuthUser × AuthUserTable platform :=
  let row := AuthUsers.updateRow platform.toPlatform user
  let overwritten := users.toAuthUsers.overwrite [row]
  if h : users.Updatable user ∧ (overwritten.rows.map AuthUser.email).Nodup then
    if database.admits overwritten.rows then (.ok user,
      { overwritten with
        uniqueEmails := h.2
        lowercased := fun row' hrow' => by
          rcases (mem_overwrite users.toAuthUsers).1 hrow' with ⟨rfl, -⟩ | ⟨hold, -⟩
          · exact lowercase_updateRow user
          · exact users.lowercased row' hold })
    else (.error writeFailed, users)
  else (.error writeFailed, users)

/-- What is thrown inside the transaction takes its statements back. -/
def replaceGroupAdmin (groupId : GroupId) (username : String) :
    Except Thrown AuthUser × AuthUserTable platform :=
  match users.findByUsername username with
  | none => (.error (.illegalState "User not found"), users)
  | some target =>
    if target.role = .viewer ∨ target.role = .operator then
      match update database (demoteGroupAdmin users groupId username)
        (target.copy (.appointed groupId)) with
      | (.ok user, after) => (.ok user, after)
      | (.error cause, _) => (.error cause, users)
    else (.error (.illegalArgument "Replacement must be a viewer or operator"), users)

end Writes

end JdbcAuthUserRepository

def jdbcAuthUserRepository (platform : Platform) (database : Database) :
    AuthUserRepository platform (AuthUserTable platform) where
  findByUsername users username := users.findByUsername username
  findByEmail := JdbcAuthUserRepository.findByEmail
  list users := users.rows
  listByGroup := JdbcAuthUserRepository.listByGroup database
  save user users := JdbcAuthUserRepository.save database users user
  update user users := JdbcAuthUserRepository.update database users user
  replaceGroupAdmin groupId username users :=
    JdbcAuthUserRepository.replaceGroupAdmin database users groupId username
  findByEmail_lowercase users email := by
    rw [JdbcAuthUserRepository.findByEmail, platform.lowercase_lowercase]
    rfl

section Found

variable {platform : Platform} {database : Database} {users after : AuthUserTable platform}
  {user user' : AuthUser}

/-- The user is one that is looked for under the key. -/
def Key.Meets (platform : Platform) (user : AuthUser) : Key → Prop
  | .username name => user.username = name
  | .email address => user.email = platform.lowercase address

theorem find_eq_some_iff {key : Key} :
    (jdbcAuthUserRepository platform database).find users key = some user ↔
      user ∈ users.rows ∧ key.Meets platform user := by
  cases key with
  | username username => exact KeyedDelta.find_eq_some_iff users.unique
  | email email => exact KeyedDelta.find_eq_some_iff users.uniqueEmails

theorem find_put (hrow : user ∈ users.rows) {put : Put}
    (hput : put ∈ CachedAuthUserRepository.puts user) :
    (jdbcAuthUserRepository platform database).find users (put.key platform) = some put.user := by
  rw [CachedAuthUserRepository.puts, List.mem_pair] at hput
  rcases hput with rfl | rfl
  · exact find_eq_some_iff.2 ⟨hrow, rfl⟩
  · refine find_eq_some_iff.2 ⟨hrow, ?_⟩
    change user.email = platform.lowercase (platform.lowercase user.email)
    rw [platform.lowercase_lowercase, users.lowercased user hrow]

/-- The members of the group that `replaceGroupAdmin` puts again. -/
def refilled (users : AuthUserTable platform) (groupId : GroupId) : List AuthUser :=
  (users.rows.filter fun row => row.groupId = groupId).take 500

theorem refills_eq (groupId : GroupId) :
    CachedAuthUserRepository.refills (jdbcAuthUserRepository platform database) users groupId =
      (refilled users groupId).flatMap CachedAuthUserRepository.puts := rfl

theorem mem_of_mem_refilled {groupId : GroupId} (h : user ∈ refilled users groupId) :
    user ∈ users.rows := List.mem_of_mem_filter (List.mem_of_mem_take h)

theorem find_refill {groupId : GroupId} {put : Put}
    (hput : put ∈ CachedAuthUserRepository.refills (jdbcAuthUserRepository platform database) users
      groupId) :
    (jdbcAuthUserRepository platform database).find users (put.key platform) = some put.user := by
  rw [refills_eq, List.mem_flatMap] at hput
  obtain ⟨member, hmember, hput⟩ := hput
  exact find_put (mem_of_mem_refilled hmember) hput

theorem update_eq_ok (h : JdbcAuthUserRepository.update database users user = (.ok user', after)) :
    user' = user ∧ (∃ current ∈ users.rows, current.username = user.username) ∧
      ∀ row, row ∈ after.rows ↔ row = AuthUsers.updateRow platform.toPlatform user ∨
        (row ∈ users.rows ∧ row.username ≠ user.username) := by
  unfold JdbcAuthUserRepository.update at h
  dsimp only at h
  split at h
  · next hupdatable =>
      split at h
      · obtain ⟨current, hcurrent, -, hname⟩ := hupdatable.1
        cases h
        refine ⟨rfl, ⟨current, hcurrent, hname⟩, fun row => ?_⟩
        refine (JdbcAuthUserRepository.mem_overwrite users.toAuthUsers).trans
          (or_congr_left (and_iff_left ?_))
        exact List.mem_map.2 ⟨current, hcurrent, hname⟩
      · cases h
  · cases h

theorem save_eq_ok (h : JdbcAuthUserRepository.save database users user = (.ok user', after)) :
    user'.email = user.email ∧
      ∀ row, row ∈ after.rows ↔
        row = AuthUsers.updateRow platform.toPlatform user' ∨ row ∈ users.rows := by
  unfold JdbcAuthUserRepository.save at h
  dsimp only at h
  split at h
  · split at h
    · cases h
      refine ⟨JdbcAuthUserRepository.withId_email .., fun row => ?_⟩
      exact (List.perm_orderedInsert _ _ users.rows).mem_iff.trans List.mem_cons
    · cases h
  · cases h

/-! ## What the writes to the database have to put -/

section Kinds

open CachedAuthUserRepository (Refilled puts refills)

variable {s : State (AuthUserTable platform)}
  (hcached : ∀ key user, s.cached key = some user →
    (jdbcAuthUserRepository platform database).find s.delegate key = some user)
  (hkeys : ∀ email user, s.usersByEmail email = some user → platform.lowercase email = email)

include hcached hkeys

omit hkeys in
/-- A new user is put as he is stored just when his e-mail address is in lower case. -/
theorem refilled_save_iff
    (hsave : JdbcAuthUserRepository.save database s.delegate user = (.ok user', after)) :
    Refilled (jdbcAuthUserRepository platform database) s after (puts user') ↔
      platform.lowercase user.email = user.email := by
  obtain ⟨hemail, hrows⟩ := save_eq_ok hsave
  rw [← hemail]
  constructor
  · rintro ⟨hputs, -⟩
    have hfound := hputs (.username user') List.mem_cons_self
    exact after.lowercased user' (find_eq_some_iff.1 hfound).1
  · intro hlowercase
    have hsame : AuthUsers.updateRow platform.toPlatform user' = user' :=
      AuthUser.ext rfl rfl hlowercase rfl rfl rfl rfl rfl rfl
    have hnew : user' ∈ after.rows := (hrows user').2 (.inl hsame.symm)
    refine ⟨fun put hput => find_put hnew hput, fun key user h => .inl ?_⟩
    obtain ⟨hrow, hmeets⟩ := find_eq_some_iff.1 (hcached key user h)
    exact find_eq_some_iff.2 ⟨(hrows user).2 (.inr hrow), hmeets⟩

end Kinds

/-- When a write to the database puts again whatever it changes. -/
def PutsAgain (database : Database) (s : State (AuthUserTable platform)) : Write → Prop
  | .save user => ∀ user' after,
    JdbcAuthUserRepository.save database s.delegate user = (.ok user', after) →
      platform.lowercase user.email = user.email
  | .update user => ∀ user' after,
    JdbcAuthUserRepository.update database s.delegate user = (.ok user', after) →
      platform.lowercase user.email = user.email ∧
        ∀ current ∈ s.delegate.rows, current.username = user.username →
          current.email = user.email ∨ s.usersByEmail current.email = none
  | .replaceGroupAdmin groupId username => ∀ user' after,
    JdbcAuthUserRepository.replaceGroupAdmin database s.delegate groupId username =
        (.ok user', after) →
      ∀ key user, s.cached key = some user →
        user.username = username ∨ AuthUsers.Demotable groupId username user →
          ∃ member ∈ refilled after groupId, member.username = user.username

open CachedAuthUserRepository (Covered Inv Lowercased putsOf)

end Found

section Sample

open CachedAuthUserRepository (Covered Transparent step)

def samplePlatform : Platform where
  deriveKey _ salt _ _ := .ok salt
  lowercase text := text
  lowercase_notBlank _ h := h
  lowercase_lowercase _ := rfl

def sampleGroup : GroupId := ⟨"alpha", .refl false⟩

def sampleUser (id : ℕ) (name : String) (role : UserRole) (h : JvmText.isBlank name = false) :
    AuthUser :=
  ⟨id, name, name, "hash", 1, role, sampleGroup, true, 1, h, h, .refl false, Nat.one_pos⟩

def sampleAdmin : AuthUser := sampleUser 1 "admin" .groupAdmin (.refl false)

def sampleViewer : AuthUser := sampleUser 2 "viewer" .viewer (.refl false)

def sampleUsers : AuthUserTable samplePlatform where
  rows := [sampleAdmin, sampleViewer]
  unique := by decide
  uniqueEmails := by decide
  lowercased _ _ := rfl

def sampleRepository : AuthUserRepository samplePlatform (AuthUserTable samplePlatform) :=
  jdbcAuthUserRepository samplePlatform
    ⟨fun rows => rows.length + 1, JvmText.notAfter, fun _ => true, .runtime "negative"⟩

/-- The administrator is replaced, and looked up afterwards. -/
def replacement : List Action :=
  [.enter (.replaceGroupAdmin sampleGroup "viewer"), .write, .list none, .refill, .refill, .refill,
    .refill, .exit, .look 0 (.findByUsername "admin")]

theorem covers_initial (after : Key → Option AuthUser) (owed : List Key) :
    Covers (State.initial sampleUsers).cached after owed := by
  intro key user h
  cases key <;> cases h

theorem covered_replacement :
    Runs.Along (step sampleRepository) (Covered sampleRepository) (.initial sampleUsers)
      replacement := by
  refine ⟨trivial, fun s hs => ⟨?_, fun _ _ => ?_⟩⟩
  · obtain rfl := Option.some.inj hs
    rintro _ ⟨⟩
    split
    · exact ⟨fun put hput => absurd hput List.not_mem_nil, covers_initial _ _⟩
    · exact ⟨fun put hput => find_refill hput, covers_initial _ _⟩
  · exact ⟨fun h => absurd h Bool.false_ne_true, fun _ _ => ⟨trivial, fun _ _ => ⟨trivial,
      fun _ _ => ⟨trivial, fun _ _ => ⟨trivial, fun _ _ => ⟨trivial, fun _ _ => ⟨trivial,
        fun _ _ => trivial⟩⟩⟩⟩⟩⟩⟩

theorem reads_transparent_sample :
    Runs.Along (step sampleRepository) (Transparent sampleRepository) (.initial sampleUsers)
      replacement :=
  CachedAuthUserRepository.reads_transparent sampleRepository sampleUsers replacement
    covered_replacement

/-- The viewer is looked up by his e-mail address, which is changed then. -/
def changedEmail : List Action :=
  [.look 0 (.findByEmail "viewer"), .ask 0 none, .cache 0, .cache 0, .leave 0,
    .enter (.update { sampleViewer with email := "new", emailNotBlank := by decide }), .write,
    .refill, .refill, .exit]

/-- The administrator is read before, and put after, he is replaced. -/
def overtakenRead : List Action :=
  [.look 0 (.findByUsername "admin"), .ask 0 none,
    .enter (.replaceGroupAdmin sampleGroup "viewer"), .write, .list none, .refill, .refill, .refill,
    .refill, .exit, .cache 0]

def stale (query : Query) (s : State (AuthUserTable samplePlatform)) : Bool :=
  s.readers 1 = none ∧ (CachedAuthUserRepository.hit samplePlatform s query).any fun user =>
    decide (sampleRepository.ask s.delegate query ≠ .ok (.user (some user)) ∧
      sampleRepository.ask (CachedAuthUserRepository.settled s) query ≠ .ok (.user (some user)))

theorem not_transparent_of_stale {query : Query} {s : State (AuthUserTable samplePlatform)}
    (h : stale query s = true) : ¬ Transparent sampleRepository s (.look 1 query) := by
  obtain ⟨hcall, hstale⟩ := of_decide_eq_true h
  obtain ⟨user, hhit, hne⟩ := (Option.any_eq_true _ _).1 hstale
  obtain ⟨hnow, hbefore⟩ := of_decide_eq_true hne
  intro htransparent
  exact (htransparent query _ (.hit hcall hhit)).elim hnow hbefore

/-- The former address goes on to find the user, and the former administrator is found as such. -/
theorem reads_not_transparent :
    ¬ Runs.Along (step sampleRepository) (Transparent sampleRepository) (.initial sampleUsers)
        (changedEmail ++ [.look 1 (.findByEmail "viewer")]) ∧
      ¬ Runs.Along (step sampleRepository) (Transparent sampleRepository) (.initial sampleUsers)
        (overtakenRead ++ [.look 1 (.findByUsername "admin")]) := by
  have hemail : (Runs.run (step sampleRepository) (.initial sampleUsers) changedEmail).any
      (stale (.findByEmail "viewer")) = true := by decide +kernel
  have hadmin : (Runs.run (step sampleRepository) (.initial sampleUsers) overtakenRead).any
      (stale (.findByUsername "admin")) = true := by decide +kernel
  obtain ⟨s, hrun, hstale⟩ := (Option.any_eq_true _ _).1 hemail
  obtain ⟨s', hrun', hstale'⟩ := (Option.any_eq_true _ _).1 hadmin
  exact ⟨fun h => not_transparent_of_stale hstale (h.at hrun),
    fun h => not_transparent_of_stale hstale' (h.at hrun')⟩

end Sample

end GcsSaker.AuthUserCache
