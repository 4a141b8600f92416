import ShuffleMint.Allocator.Operation
import ShuffleMint.Collaborator.Script
import ShuffleMint.Proofs.Allocator.Claiming
import ShuffleMint.Proofs.Allocator.Numbering
import ShuffleMint.Proofs.Allocator.Refinement
import ShuffleMint.Proofs.Allocator.Refusal
import ShuffleMint.Proofs.Config.Denomination
import ShuffleMint.Proofs.Escrow.Stranding
import ShuffleMint.Proofs.Query.Listing
import ShuffleMint.Proofs.Random.Seeding
import ShuffleMint.Proofs.Run.Addressees
import ShuffleMint.Proofs.Run.Authority
import ShuffleMint.Proofs.Run.BundleCoherence
import ShuffleMint.Proofs.Run.BundleCompletion
import ShuffleMint.Proofs.Run.BundleMint
import ShuffleMint.Proofs.Run.CleanFailure
import ShuffleMint.Proofs.Run.Creation
import ShuffleMint.Proofs.Run.DrawOrder
import ShuffleMint.Proofs.Run.EscrowConservation
import ShuffleMint.Proofs.Run.Gates
import ShuffleMint.Proofs.Run.Issuance
import ShuffleMint.Proofs.Run.Migration
import ShuffleMint.Proofs.Run.MintCounts
import ShuffleMint.Proofs.Run.Overflow
import ShuffleMint.Proofs.Run.Reconfiguration
import ShuffleMint.Proofs.Run.RemainingBundles
import ShuffleMint.Proofs.Run.Reports
import ShuffleMint.Proofs.Run.Restaging
import ShuffleMint.Proofs.Run.Revenue
import ShuffleMint.Proofs.Run.SaleWindow
import ShuffleMint.Proofs.Run.Settings
import ShuffleMint.Proofs.Run.Shuffling
import ShuffleMint.Proofs.Run.SlotLifeCycle
import ShuffleMint.Proofs.Run.Solvency
import ShuffleMint.Proofs.Run.SplitClaim
import ShuffleMint.Proofs.Run.SupplyReports
import ShuffleMint.Query
import ShuffleMint.Run
import ShuffleMint.SortedMap.Lemmas
import ShuffleMint.Step.Lemmas
import ShuffleMint.Store.Entry
import ShuffleMint.Text.Hex
import ShuffleMint.Wire.Request
import ShuffleMint.Wire.Response
