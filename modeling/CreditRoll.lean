import CreditRoll.Files.Tree
import CreditRoll.Main
import CreditRoll.Proofs.Accounting
import CreditRoll.Proofs.Authorization
import CreditRoll.Proofs.Confinement
import CreditRoll.Proofs.Cycle
import CreditRoll.Proofs.LinkGrammar
import CreditRoll.Proofs.NameOrder
import CreditRoll.Proofs.Path
import CreditRoll.Proofs.Presentation
import CreditRoll.Proofs.ReportLines
import CreditRoll.Proofs.RepositoryName
import CreditRoll.Proofs.RequestUrl
import CreditRoll.Proofs.WireFields
import CreditRoll.Proofs.Spelling
import CreditRoll.Proofs.OptionOrder
import CreditRoll.Proofs.Classification
import CreditRoll.Proofs.JsonReading
import CreditRoll.Proofs.Logging
import CreditRoll.Proofs.Explanation
import CreditRoll.Proofs.BaseAddress
import CreditRoll.Proofs.LinkSearch
import CreditRoll.Proofs.ConfigDirectory
import CreditRoll.Proofs.ConfigText
