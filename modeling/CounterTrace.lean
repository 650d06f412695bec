import CounterTrace.Main
import CounterTrace.Proofs.AddressFields
import CounterTrace.Proofs.AddressTexts
import CounterTrace.Proofs.Association
import CounterTrace.Proofs.CounterMetadata
import CounterTrace.Proofs.Dependence
import CounterTrace.Proofs.Enumeration
import CounterTrace.Proofs.FileNames
import CounterTrace.Proofs.Lexing
import CounterTrace.Proofs.LineVariants
import CounterTrace.Proofs.ListingFaults
import CounterTrace.Proofs.Locality
import CounterTrace.Proofs.MarkerSearch
import CounterTrace.Proofs.Program
