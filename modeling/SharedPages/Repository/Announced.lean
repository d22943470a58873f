import SharedPages.Repository.Memory
import SharedPages.UnitOfWork

/-! # Repositories in memory that announce what they do

These repositories run a statement on the connection that their context gives, and then do what the
repositories in memory do.  A statement that fails keeps them from doing it.  Users and pages stay
as they are when a unit of work is undone; only the statements take part in it. -/

namespace SharedPages.Announced

variable (β : Type) {τ σ : Type} [Backend β τ] [Holds (Database β τ) σ] [Holds Memory σ]

/-- Runs a statement on the connection of a context. -/
def announce (role : PoolRole) (ctx : Context) (text : String) : Work σ Cause Unit :=
  ((Database.statement (Client.ofContext role ctx) text : Work (Database β τ) _ _).mapError
    .database).on

/-- Users in memory, with an announcement before each operation. -/
def userRepository : UserRepository σ where
  get ctx id := do
    (announce β .read ctx "SELECT user").mapError .repository
    Memory.userRepository.get ctx id
  getByUid ctx uid := do
    (announce β .read ctx ("SELECT user " ++ uid)).mapError .repository
    Memory.userRepository.getByUid ctx uid
  save ctx u := do
    (announce β .write ctx ("INSERT user " ++ u.uid)).mapError .repository
    Memory.userRepository.save ctx u

/-- Pages in memory, with an announcement before each operation.  Saving is a unit of work. -/
def pageRepository : PageRepository σ where
  get ctx id := do
    (announce β .read ctx "SELECT page").mapError .repository
    Memory.pageRepository.get ctx id
  list ctx query := do
    (announce β .read ctx "SELECT pages").mapError .repository
    Memory.pageRepository.list ctx query
  save ctx p :=
    (UnitRunner.onDatabase β PageError Unit ctx fun ctx => do
      (announce β .write ctx ("INSERT page " ++ p.title)).mapError .repository
      Memory.pageRepository.save ctx p).mapError .ofTransaction
  delete ctx id := do
    (announce β .write ctx "DELETE page").mapError .repository
    Memory.pageRepository.delete ctx id

end SharedPages.Announced
