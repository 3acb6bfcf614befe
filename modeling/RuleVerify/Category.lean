import RuleVerify.Text.Blank
import RuleVerify.Text.CaseMap

namespace RuleVerify

/-- Where the values of a rule come from: from the texts of a user interface, or from the payload of
    a response. -/
inductive Category where
  /-- The text of a dialog. -/
  | uiAlert
  /-- The text of an error container. -/
  | uiError
  /-- Values that the tester names. -/
  | uiCommon
  /-- A response payload, whose values are found by queries. -/
  | apiResponse
deriving DecidableEq, Repr

namespace Category

def all : List Category := [uiAlert, uiError, uiCommon, apiResponse]

def token : Category → String
  | uiAlert => "UI_ALERT"
  | uiError => "UI_ERROR"
  | uiCommon => "UI_COMMON"
  | apiResponse => "API_RESPONSE"

/-- The category of a token, written in any case and with white space around it. -/
def ofToken? (text : List Char) : Option Category :=
  let word := Text.toLowerAscii (Text.trim text)
  all.find? fun c => Text.toLowerAscii c.token.toList == word

/-- The category whose token is exactly the given text. -/
def ofExactToken? (text : String) : Option Category := all.find? fun c => c.token == text

end Category

end RuleVerify
