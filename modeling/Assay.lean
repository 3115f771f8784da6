import Assay.Mutation.Lookup
import Assay.Print.Irregular
import Assay.Proofs.Concrete.Chains
import Assay.Proofs.Concrete.Comments
import Assay.Proofs.Concrete.Faults
import Assay.Proofs.Concrete.Unsupported
import Assay.Proofs.Coverage.Directives
import Assay.Proofs.Coverage.Erasure
import Assay.Proofs.Coverage.Growth
import Assay.Proofs.Mutation.Standing
import Assay.Proofs.Print.Bodies
import Assay.Proofs.Print.Dangling
import Assay.Proofs.Print.Derivation
import Assay.Proofs.Print.Enclosure
import Assay.Proofs.Print.Holes
import Assay.Proofs.Print.Quotation
import Assay.Proofs.Report.Account
import Assay.Session.Finish
import Assay.Tree.Fragment
