import FirmwareUpgrade.Bench.Countdown
import FirmwareUpgrade.Bench.Step
import FirmwareUpgrade.Bench.Switchboard
import FirmwareUpgrade.Board
import FirmwareUpgrade.Main
import FirmwareUpgrade.Proofs.ChunkSize
import FirmwareUpgrade.Proofs.Completion
import FirmwareUpgrade.Proofs.Contract
import FirmwareUpgrade.Proofs.Conveyance
import FirmwareUpgrade.Proofs.Custody
import FirmwareUpgrade.Proofs.Deferral
import FirmwareUpgrade.Proofs.Descriptors
import FirmwareUpgrade.Proofs.Detachment
import FirmwareUpgrade.Proofs.Draining
import FirmwareUpgrade.Proofs.Ending
import FirmwareUpgrade.Proofs.Exclusion
import FirmwareUpgrade.Proofs.Faults
import FirmwareUpgrade.Proofs.Fifo
import FirmwareUpgrade.Proofs.FirstFault
import FirmwareUpgrade.Proofs.Headroom
import FirmwareUpgrade.Proofs.Loss
import FirmwareUpgrade.Proofs.Memory
import FirmwareUpgrade.Proofs.Order
import FirmwareUpgrade.Proofs.Ownership
import FirmwareUpgrade.Proofs.Packets
import FirmwareUpgrade.Proofs.Provenance
import FirmwareUpgrade.Proofs.Quiescence
import FirmwareUpgrade.Proofs.Range
import FirmwareUpgrade.Proofs.Reset
import FirmwareUpgrade.Proofs.Resting
import FirmwareUpgrade.Proofs.Routing
import FirmwareUpgrade.Proofs.Soundness
import FirmwareUpgrade.Proofs.Storage
import FirmwareUpgrade.Proofs.Termination
import FirmwareUpgrade.Proofs.Verification
import FirmwareUpgrade.Proofs.VerifiedBytes
import FirmwareUpgrade.Proofs.Waiting
