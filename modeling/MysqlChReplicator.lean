import MysqlChReplicator.Python.UnicodeData
import MysqlChReplicator.Python.Unicode
import MysqlChReplicator.Python.Text
import MysqlChReplicator.Python.Value
import MysqlChReplicator.Python.Words
import MysqlChReplicator.Converter.TableStructure
import MysqlChReplicator.Converter.ConvertType
import MysqlChReplicator.Converter.ConvertRecord
import MysqlChReplicator.Converter.IntegerColumns
import MysqlChReplicator.Converter.LabelDeclarations
import MysqlChReplicator.Converter.ParameterText
import MysqlChReplicator.Converter.Rows
import MysqlChReplicator.Converter.SetColumns
import MysqlChReplicator.Converter.EnumLiterals
import MysqlChReplicator.Converter.Points
import MysqlChReplicator.Converter.NumericTypes
import MysqlChReplicator.Converter.ConvertBytes
import MysqlChReplicator.Converter.MappedTypes
import MysqlChReplicator.Converter.StringColumns
import MysqlChReplicator.Converter.TableConversion
import MysqlChReplicator.Ddl.Statement
import MysqlChReplicator.Ddl.Tokenizer
import MysqlChReplicator.Ddl.AlterTable
import MysqlChReplicator.Ddl.Lockstep
import MysqlChReplicator.Ddl.Isolation
import MysqlChReplicator.Ddl.Targets
import MysqlChReplicator.Ddl.Clauses
import MysqlChReplicator.Ddl.Invariants
