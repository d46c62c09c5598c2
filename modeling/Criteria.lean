import Criteria.FileTree
import Criteria.Main
import Criteria.Proofs.AtomText
import Criteria.Proofs.BuildHistory
import Criteria.Proofs.ConditionForms
import Criteria.Proofs.ConditionText
import Criteria.Proofs.FilterRetention
import Criteria.Proofs.Grammar
import Criteria.Proofs.LevelShape
import Criteria.Proofs.Numbering
import Criteria.Proofs.Offences
import Criteria.Proofs.PresentEntries
import Criteria.Proofs.Pruning
import Criteria.Proofs.Readback
import Criteria.Proofs.Scanning
import Criteria.Proofs.StatementNumbering
import Criteria.Proofs.StatementParts
import Criteria.Proofs.Truth
import Criteria.Proofs.ValueIndependence
import Criteria.Proofs.ValueMap
import Criteria.Session
import Criteria.Proofs.LastValues
import Criteria.Proofs.Notation
import Criteria.Proofs.NotationReading
import Criteria.Proofs.Construction
import Criteria.Proofs.CheckedNames
import Criteria.Proofs.InsertedRows
import Criteria.Proofs.ConditionMeaning
import Criteria.Proofs.ReadingOrder
import Criteria.Proofs.GrowingText
import Criteria.Proofs.CommandOutput
import Criteria.Proofs.NullSplitting
import Criteria.Proofs.RectangularRows
import Criteria.Proofs.Indentation
import Criteria.Proofs.WrittenNumbers
import Criteria.Proofs.ArgumentUnits
import Criteria.Proofs.ArgumentOrder
import Criteria.Proofs.BoundIntegers
import Criteria.Proofs.KeyMarks
import Criteria.Proofs.SettledEntries
