import DocQuery.Proofs.Compiler.Accounting
import DocQuery.Proofs.Compiler.Container
import DocQuery.Proofs.Compiler.Count
import DocQuery.Proofs.Compiler.Filter
import DocQuery.Proofs.Compiler.Independence
import DocQuery.Proofs.Compiler.Insertion
import DocQuery.Proofs.Compiler.Locality
import DocQuery.Proofs.Compiler.Nulls
import DocQuery.Proofs.Compiler.Path
import DocQuery.Proofs.Compiler.Reordering
import DocQuery.Proofs.Compiler.Requirement
import DocQuery.Proofs.Compiler.Spelling
import DocQuery.Proofs.Compiler.TextFallback
import DocQuery.Proofs.Compiler.Validation
import DocQuery.Proofs.Compiler.WrittenOrder
import DocQuery.Proofs.Converter.Integer
import DocQuery.Proofs.Converter.Standard
import DocQuery.Proofs.Criteria.Amount
import DocQuery.Proofs.Pattern
import DocQuery.Proofs.Service.Answer
import DocQuery.Proofs.Service.SortFields
