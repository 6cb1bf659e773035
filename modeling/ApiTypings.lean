import ApiTypings.Main
import ApiTypings.Proofs.Closure
import ApiTypings.Proofs.Confinement
import ApiTypings.Proofs.Distinctness
import ApiTypings.Proofs.Scope
import ApiTypings.Proofs.Lossless
import ApiTypings.Proofs.Locality
import ApiTypings.Proofs.Refusals
import ApiTypings.Proofs.Batches
import ApiTypings.Proofs.Effects
import ApiTypings.Proofs.Keeping
import ApiTypings.Proofs.Braces
import ApiTypings.Proofs.Enclosure
import ApiTypings.Proofs.Reordering
import ApiTypings.Proofs.Validation
import ApiTypings.Proofs.Exclusion
import ApiTypings.Proofs.Ledger
import ApiTypings.Proofs.Runs
import ApiTypings.Proofs.Delivery
import ApiTypings.Proofs.Values
import ApiTypings.Proofs.Loading
import ApiTypings.Proofs.Malformed
import ApiTypings.Proofs.Wholeness
import ApiTypings.Proofs.Strategies
import ApiTypings.Proofs.Repetition
import ApiTypings.Proofs.Resolving
import ApiTypings.Proofs.Interfaces
import ApiTypings.Proofs.Grammar
import ApiTypings.Proofs.Histories
import ApiTypings.Proofs.Descriptions
import ApiTypings.Proofs.Reflow
import ApiTypings.Proofs.KeyTokens
import ApiTypings.Proofs.Recovery
import ApiTypings.Proofs.Prefixes
import ApiTypings.Proofs.Dumping
import ApiTypings.Proofs.ProjectHistories
import ApiTypings.Proofs.Spellings
import ApiTypings.Proofs.Quotations
import ApiTypings.Proofs.Drafts
