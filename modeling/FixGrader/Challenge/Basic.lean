import FixGrader.Challenge.CommandInjection
import FixGrader.Challenge.CrossSiteScripting
import FixGrader.Challenge.SqlInjection

namespace FixGrader

inductive Challenge where
  | sqlInjection
  | crossSiteScripting
  | commandInjection
  deriving DecidableEq, Repr

namespace Challenge

def slug : Challenge → String
  | sqlInjection => "sqli_001"
  | crossSiteScripting => "xss_001"
  | commandInjection => "cmdi_001"

def all : List Challenge := [sqlInjection, crossSiteScripting, commandInjection]

def ofSlug? (slug : String) : Option Challenge := all.find? (·.slug == slug)

def rule : Challenge → Rule
  | sqlInjection => SqlInjection.rule
  | crossSiteScripting => CrossSiteScripting.rule
  | commandInjection => CommandInjection.rule

theorem ofSlug?_slug (c : Challenge) : ofSlug? c.slug = some c := by
  cases c <;> decide

end Challenge

end FixGrader
