import Webform.Main
import Webform.Markup.Reader
import Webform.Proofs.Command.Answers
import Webform.Proofs.Form.Normal
import Webform.Proofs.Form.Report
import Webform.Proofs.Form.RoundTrip
import Webform.Proofs.Form.Schema
import Webform.Proofs.Form.StepOrder
import Webform.Proofs.Markup.ControlIds
import Webform.Proofs.Markup.EscapedForm
import Webform.Proofs.Markup.Indentation
import Webform.Proofs.Markup.Intended
import Webform.Proofs.Markup.ReadBack
import Webform.Proofs.Markup.Replacing
import Webform.Proofs.Markup.ScriptEnd
import Webform.Proofs.Store.Runs
import Webform.Proofs.Styling.Declared
import Webform.Proofs.Styling.Silence
import Webform.Proofs.Validation.Contributions
import Webform.Proofs.Validation.Controls
import Webform.Proofs.Validation.InsertionOrder
import Webform.Proofs.Validation.Loosening
import Webform.Proofs.Validation.Patterns
import Webform.Proofs.Validation.Posting
import Webform.Proofs.Validation.WholeTexts
import Webform.Samples
import Webform.Store
import Webform.Validation
