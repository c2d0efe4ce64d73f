import ColumnDispatch.Json
import ColumnDispatch.Operator.Codec
import ColumnDispatch.Proofs.Batches.Canonical
import ColumnDispatch.Proofs.Invocation.ExpectedRanges
import ColumnDispatch.Proofs.Invocation.Transparency
import ColumnDispatch.Proofs.Kernels.Contract
import ColumnDispatch.Proofs.Kernels.Slices
import ColumnDispatch.Proofs.Registration.Atomicity
import ColumnDispatch.Proofs.Registration.AuditTrail
import ColumnDispatch.Proofs.Registration.Unambiguity
import ColumnDispatch.Registry.Listing
import ColumnDispatch.Proofs.Kernels.Choice
import ColumnDispatch.Proofs.Kernels.Concatenation
import ColumnDispatch.Proofs.Kernels.Integers
import ColumnDispatch.Proofs.Cells.NumberOrder
import ColumnDispatch.Proofs.Cells.TextOrder
import ColumnDispatch.Proofs.Kernels.Comparisons
import ColumnDispatch.Proofs.Cells.Wildcards
import ColumnDispatch.Proofs.Kernels.Patterns
import ColumnDispatch.Proofs.Kernels.Casts
import ColumnDispatch.Proofs.Calendar.DayCount
import ColumnDispatch.Proofs.Cells.Numerals
import ColumnDispatch.Proofs.Calendar.Forms
import ColumnDispatch.Proofs.Calendar.ReadBack
import ColumnDispatch.Proofs.Kernels.TextRoundTrip
import ColumnDispatch.Proofs.Calendar.Days
import ColumnDispatch.Proofs.Kernels.DayCasts
import ColumnDispatch.Proofs.Batches.Normalization
import ColumnDispatch.Proofs.Batches.DaysOfMilliseconds
import ColumnDispatch.Proofs.Invocation.RefusalTrail
import ColumnDispatch.Proofs.WrittenForms
import ColumnDispatch.Proofs.Invocation.Pools
import ColumnDispatch.Proofs.Registration.Rendering
import ColumnDispatch.Proofs.Calendar.Offsets
