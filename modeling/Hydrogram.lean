import Hydrogram.Python
import Hydrogram.Re.Syntax
import Hydrogram.Re.Engine
import Hydrogram.Re.Facts
import Hydrogram.Re.Forward
import Hydrogram.Types
import Hydrogram.Filters.Combinators
import Hydrogram.Filters.Attribute
import Hydrogram.Filters.Command
import Hydrogram.Filters.CommandMatch
import Hydrogram.Filters.CommandArgs
import Hydrogram.Filters.Regex
import Hydrogram.Filters.Membership
import Hydrogram.Filters.Library
import Hydrogram.Filters.Algebra
import Hydrogram.Filters.Augmented
import Hydrogram.Methods.SearchMessages
import Hydrogram.Filters.CommandGrammar
import Hydrogram.Methods.OnRawUpdate
import Hydrogram.Methods.SendDice
