import PasswordPolicy.Change
import PasswordPolicy.Fields.Wording
import PasswordPolicy.Main
import PasswordPolicy.Proofs.Evaluation.Strictness
import PasswordPolicy.Proofs.Specification.Canonical
import PasswordPolicy.Proofs.Specification.Join
import PasswordPolicy.Proofs.Specification.Malformed
import PasswordPolicy.Session
import PasswordPolicy.Text.Template
import PasswordPolicy.Proofs.Evaluation.Acceptable
import PasswordPolicy.Proofs.Evaluation.UserName
import PasswordPolicy.Proofs.Evaluation.Reuse
import PasswordPolicy.Proofs.Age.Expiry
import PasswordPolicy.Proofs.Change.Verdict
import PasswordPolicy.Proofs.Fields.Proper
import PasswordPolicy.Proofs.Session.Proper
import PasswordPolicy.Proofs.Session.Sharing
import PasswordPolicy.Proofs.Policy.Observation
import PasswordPolicy.Proofs.Settings.Accepted
import PasswordPolicy.Proofs.Fields.Override
import PasswordPolicy.Proofs.Settings.Layers
import PasswordPolicy.Proofs.Settings.Precedence
import PasswordPolicy.Proofs.Console.Secrecy
import PasswordPolicy.Proofs.Console.Verdict
import PasswordPolicy.Proofs.Session.Failure
import PasswordPolicy.Proofs.Console.Format
import PasswordPolicy.Proofs.Console.Configuration
import PasswordPolicy.Proofs.Console.Independence
import PasswordPolicy.Proofs.Console.Rules
import PasswordPolicy.Proofs.Specification.Padding
import PasswordPolicy.Proofs.Specification.LetterCase
import PasswordPolicy.Proofs.Evaluation.Shortest
import PasswordPolicy.Proofs.Evaluation.NamedProperties
import PasswordPolicy.Proofs.Fields.Renaming
import PasswordPolicy.Proofs.Console.Age
import PasswordPolicy.Proofs.Fields.Schema
import PasswordPolicy.Proofs.Fields.Report
