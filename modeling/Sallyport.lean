import Sallyport.Rtos.Basic
import Sallyport.Cell.Session
import Sallyport.Cell.Loan
import Sallyport.Trace.Recorder
import Sallyport.Text.Hex
import Sallyport.Data.Table
import Sallyport.Hart.Cause
import Sallyport.Hart.Mstatus
import Sallyport.Hart.CoreId
import Sallyport.Dma.Driver
import Sallyport.Dma.Checked
import Sallyport.Quantum
import Sallyport.Gate.Program
import Sallyport.Machine
import Sallyport.Epitaph.Pen
import Sallyport.Service.Call
import Sallyport.Service.Reply
import Sallyport.Host.Kernel
import Sallyport.Trampoline
import Sallyport.Trampoline.Transparency
import Sallyport.Launch
import Sallyport.Service.Errand
import Sallyport.Foreign.Answer
import Sallyport.Foreign.Binding
import Sallyport.Foreign.Export
import Sallyport.Foreign.Scripted
import Sallyport.Toml.Node
import Sallyport.Toml.Text
import Sallyport.Toml.Moment
import Sallyport.Toml.Number
import Sallyport.Toml.Document
import Sallyport.Platform.Channels
import Sallyport.Platform.ControlBlocks
import Sallyport.Platform.Generate
import Sallyport.Proofs.Gate.Account
import Sallyport.Proofs.Gate.Structured
import Sallyport.Proofs.Host.Log
import Sallyport.Proofs.Trampoline.Transparent
import Sallyport.Proofs.Foreign.Agreement
import Sallyport.Proofs.Dma.Bitmap
import Sallyport.Proofs.Dma.Pool
import Sallyport.Proofs.Dma.Ownership
import Sallyport.Proofs.Dma.Stock
import Sallyport.Proofs.Trace.Log
import Sallyport.Proofs.Quantum
import Sallyport.Proofs.Gate.Chronicle
import Sallyport.Proofs.Hart.Service
import Sallyport.Proofs.Machine.Level
import Sallyport.Proofs.Data.Bytes
import Sallyport.Proofs.Epitaph.Record
import Sallyport.Proofs.Machine.Failure
import Sallyport.Proofs.Dma.Boundary
import Sallyport.Proofs.Mpu.Rule
import Sallyport.Proofs.Host.Run
import Sallyport.Proofs.Host.Capacity
import Sallyport.Proofs.Host.Families
import Sallyport.Proofs.Foreign.Memory
import Sallyport.Proofs.Dma.Numbers
import Sallyport.Proofs.Cell.Loan
import Sallyport.Proofs.Trace.Recording
import Sallyport.Proofs.Launch
import Sallyport.Proofs.Mpu.Region
import Sallyport.Proofs.Gate.Overlap
import Sallyport.Proofs.Machine.Entries
import Sallyport.Proofs.Text.Hex
import Sallyport.Proofs.Machine.Diagnosis
import Sallyport.Trace.Indexed
import Sallyport.Proofs.Trace.Healing
import Sallyport.Proofs.Quantum.Window
import Sallyport.Proofs.Host.Routes
import Sallyport.Proofs.Host.Fifo
import Sallyport.Proofs.Host.Flow
import Sallyport.Proofs.Host.HandOff
import Sallyport.Proofs.Host.Counting
import Sallyport.Proofs.Host.Events
import Sallyport.Proofs.Host.Accounts
import Sallyport.Proofs.Host.Deadline
import Sallyport.Proofs.Mpu.Descriptor
import Sallyport.Proofs.Host.Belongings
import Sallyport.Proofs.Host.Forgetting
import Sallyport.Proofs.Host.Spelling
import Sallyport.Proofs.Epitaph.Pieces
import Sallyport.Proofs.Epitaph.Reading
import Sallyport.Proofs.Dma.Sharing
import Sallyport.Proofs.Foreign.Refusal
