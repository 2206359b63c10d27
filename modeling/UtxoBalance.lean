import UtxoBalance.Accumulator
import UtxoBalance.CommandLine.Run
import UtxoBalance.Composition
import UtxoBalance.Main
import UtxoBalance.Settings.Pipeline
import UtxoBalance.Proofs.Outcome
import UtxoBalance.Proofs.Deltas
import UtxoBalance.Proofs.Walk
import UtxoBalance.Proofs.Reduction
import UtxoBalance.Proofs.Reversal
import UtxoBalance.Proofs.Numeral
import UtxoBalance.Proofs.Store
import UtxoBalance.Proofs.Settlement
import UtxoBalance.Proofs.AddressKey
import UtxoBalance.Proofs.KeyIdentity
import UtxoBalance.Proofs.StakingCredential
import UtxoBalance.Proofs.Rearrangement
import UtxoBalance.Proofs.Emission
import UtxoBalance.Proofs.StakeGrouping
import UtxoBalance.Proofs.Leniency
import UtxoBalance.Proofs.DeclaredSums
import UtxoBalance.Proofs.Keyspace
import UtxoBalance.Proofs.ByteText
import UtxoBalance.Proofs.ByteField
import UtxoBalance.Proofs.Rendering
import UtxoBalance.Proofs.CommandText
import UtxoBalance.Proofs.Output
import UtxoBalance.Proofs.BlockFile
import UtxoBalance.Proofs.FailedRun
import UtxoBalance.Proofs.BlockGrammar
import UtxoBalance.Proofs.BlockFaults
import UtxoBalance.Proofs.IndependentReduction
import UtxoBalance.Proofs.CommandNormalForm
import UtxoBalance.Proofs.AccumulatorUse
import UtxoBalance.Proofs.MalformedAddress
import UtxoBalance.Proofs.FailedMerge
import UtxoBalance.Proofs.CommandFaults
import UtxoBalance.Proofs.TableName
import UtxoBalance.Proofs.ReductionFields
import UtxoBalance.Proofs.TableValidation
import UtxoBalance.Proofs.StatementText
import UtxoBalance.Proofs.SkippedItems
