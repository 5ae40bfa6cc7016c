import PersistentId.Inspect
import PersistentId.Main
import PersistentId.Proofs.Calls
import PersistentId.Proofs.Config
import PersistentId.Proofs.Exhaustion
import PersistentId.Proofs.Identifier.Origin
import PersistentId.Proofs.Ledger.Resumed
import PersistentId.Proofs.Ledger.Shared
import PersistentId.Proofs.LockedFile
import PersistentId.Proofs.Minter.Check
import PersistentId.Proofs.Minter.Random
import PersistentId.Proofs.Provider.Listed
import PersistentId.Proofs.Provider.Minted
import PersistentId.Proofs.Provider.Stability
import PersistentId.Proofs.Reading
import PersistentId.Proofs.RegistryService.History
import PersistentId.Proofs.Restart
import PersistentId.Proofs.Sameness
import PersistentId.Proofs.Tool.Run
import PersistentId.Proofs.Uniqueness
