import FormRules.Action
import FormRules.Binary64.Basic
import FormRules.Binary64.Decimal
import FormRules.Binary64.Rounding
import FormRules.Binding
import FormRules.Calendar.Date
import FormRules.Calendar.Moment
import FormRules.Calendar.Reading
import FormRules.Condition
import FormRules.Condition.Evaluate
import FormRules.Context
import FormRules.Dict
import FormRules.Engine
import FormRules.EvalError
import FormRules.Evaluation
import FormRules.Expr
import FormRules.Expr.Resolve
import FormRules.FieldConfig
import FormRules.FormState
import FormRules.Format.Card
import FormRules.Format.Email
import FormRules.Format.Phone
import FormRules.Format.Url
import FormRules.Format.Uuid
import FormRules.Functions
import FormRules.Numeral
import FormRules.Operator
import FormRules.Operator.Meaning
import FormRules.Path
import FormRules.Pattern.Basic
import FormRules.Pattern.Beginnings
import FormRules.Pattern.ByteTree
import FormRules.Pattern.Meaning
import FormRules.Pattern.Outline
import FormRules.Pattern.Reader
import FormRules.Pattern.Size
import FormRules.Pattern.Tree
import FormRules.Proofs.Binary64.Integer
import FormRules.Proofs.Calendar.Date
import FormRules.Proofs.Calendar.Reading
import FormRules.Proofs.Condition.Algebra
import FormRules.Proofs.Context.FieldReading
import FormRules.Proofs.Context.Lookup
import FormRules.Proofs.Context.Timestamp
import FormRules.Proofs.Dict
import FormRules.Proofs.Engine.CustomCalls
import FormRules.Proofs.Engine.Cycle
import FormRules.Proofs.Engine.DeclaredFields
import FormRules.Proofs.Engine.Field
import FormRules.Proofs.Engine.FieldEdit
import FormRules.Proofs.Engine.InStep
import FormRules.Proofs.Engine.LastWrite
import FormRules.Proofs.Engine.PlainForm
import FormRules.Proofs.Engine.Rearrangement
import FormRules.Proofs.Engine.Repetition
import FormRules.Proofs.Engine.Request
import FormRules.Proofs.Engine.Validity
import FormRules.Proofs.Engine.Verdict
import FormRules.Proofs.Evaluation.Actions
import FormRules.Proofs.Evaluation.Effects
import FormRules.Proofs.Evaluation.Failure
import FormRules.Proofs.Evaluation.Isolation
import FormRules.Proofs.Evaluation.Outcome
import FormRules.Proofs.Evaluation.Priority
import FormRules.Proofs.Evaluation.Reading
import FormRules.Proofs.Evaluation.Report
import FormRules.Proofs.Evaluation.Targets
import FormRules.Proofs.Everywhere
import FormRules.Proofs.FormState.Entries
import FormRules.Proofs.FormState.Field
import FormRules.Proofs.FormState.History
import FormRules.Proofs.FormState.Summary
import FormRules.Proofs.Format.Card
import FormRules.Proofs.Format.Email
import FormRules.Proofs.Operator.Order
import FormRules.Proofs.Operator.Range
import FormRules.Proofs.Path
import FormRules.Proofs.Pattern.Language
import FormRules.Proofs.Rule.Defect
import FormRules.Proofs.Rule.WellFormed
import FormRules.Proofs.RuleSet.Check
import FormRules.Proofs.RuleSet.Drafts
import FormRules.Proofs.RuleText.ActionReadback
import FormRules.Proofs.RuleText.Choice
import FormRules.Proofs.RuleText.Concatenation
import FormRules.Proofs.RuleText.ConditionReadback
import FormRules.Proofs.RuleText.Display
import FormRules.Proofs.RuleText.Image
import FormRules.Proofs.RuleText.Lexeme
import FormRules.Proofs.RuleText.Local
import FormRules.Proofs.RuleText.LocalGrammar
import FormRules.Proofs.RuleText.LocalRule
import FormRules.Proofs.RuleText.Position
import FormRules.Proofs.RuleText.Precedence
import FormRules.Proofs.RuleText.Progress
import FormRules.Proofs.RuleText.Readable
import FormRules.Proofs.RuleText.Readback
import FormRules.Proofs.RuleText.Reader
import FormRules.Proofs.RuleText.Recursion
import FormRules.Proofs.RuleText.Report
import FormRules.Proofs.RuleText.RuleImage
import FormRules.Proofs.RuleText.RuleReadback
import FormRules.Proofs.RuleText.Source
import FormRules.Proofs.RuleText.Token
import FormRules.Proofs.RuleText.UnknownOperator
import FormRules.Proofs.RuleText.Validation
import FormRules.Proofs.RuleText.Within
import FormRules.Proofs.Schema.Dates
import FormRules.Proofs.Schema.Declarations
import FormRules.Proofs.Value.Equality
import FormRules.Proofs.Value.Number
import FormRules.Rule
import FormRules.Rule.Defect
import FormRules.Rule.Draft
import FormRules.RuleSet
import FormRules.RuleText
import FormRules.RuleText.Error
import FormRules.RuleText.Grammar
import FormRules.RuleText.Reader
import FormRules.RuleText.Token
import FormRules.Schema
import FormRules.Text.Quoted
import FormRules.Unicode.Age
import FormRules.Unicode.Blank
import FormRules.Unicode.Case
import FormRules.Unicode.Category
import FormRules.Unicode.CharSet
import FormRules.Unicode.Property
import FormRules.Unicode.Recent
import FormRules.Unicode.Script
import FormRules.Unicode.Segment
import FormRules.Value
