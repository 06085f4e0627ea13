/-!
The words that invented values are made of.
-/

namespace Formulary.Sample.Pool

def maleFirstNames : List String :=
  ["João", "José", "Carlos", "Marcos", "Ricardo", "Paulo", "Pedro", "Lucas", "Gabriel", "Rafael",
   "Eduardo", "Fernando", "André", "Bruno", "Gustavo", "Felipe", "Rodrigo", "Thiago", "Antônio",
   "Luiz"]

def femaleFirstNames : List String :=
  ["Maria", "Ana", "Juliana", "Helena", "Lúcia", "Fernanda", "Patrícia", "Camila", "Beatriz",
   "Larissa", "Mariana", "Gabriela", "Aline", "Carolina", "Letícia", "Vanessa", "Renata", "Luana",
   "Isabela", "Cristina"]

def surnames : List String :=
  ["Silva", "Souza", "Oliveira", "Santos", "Pereira", "Lima", "Carvalho", "Ferreira", "Almeida",
   "Gomes", "Martins", "Rocha", "Ribeiro", "Alves", "Monteiro", "Mendes", "Barros", "Freitas",
   "Barbosa", "Nogueira", "Moreira", "Cardoso", "Teixeira", "Correia"]

/-- What may stand before the last surname. -/
def particles : List String :=
  ["de", "da", "dos"]

def cities : List String :=
  ["Goiânia", "Anápolis", "Aparecida de Goiânia", "Rio Verde", "Brasília", "São Paulo",
   "Rio de Janeiro", "Belo Horizonte", "Salvador", "Curitiba", "Porto Alegre", "Recife",
   "Fortaleza", "Manaus", "Belém", "Campinas", "Uberlândia", "Cuiabá", "Campo Grande",
   "Florianópolis"]

def states : List String :=
  ["AC", "AL", "AP", "AM", "BA", "CE", "DF", "ES", "GO", "MA", "MT", "MS", "MG", "PA", "PB", "PR",
   "PE", "PI", "RJ", "RN", "RS", "RO", "RR", "SC", "SP", "SE", "TO"]

def streetTypes : List String :=
  ["Rua", "Avenida", "Alameda", "Travessa", "Praça"]

def streetNames : List String :=
  ["das Acácias", "das Flores", "Goiás", "Anhanguera", "Tiradentes", "Sete de Setembro",
   "Quinze de Novembro", "Dom Pedro II", "Santos Dumont", "dos Ipês", "Marechal Deodoro",
   "Rui Barbosa"]

def dwellings : List String :=
  ["Apto.", "Casa", "Bloco", "Sala", "Lote"]

def occupations : List String :=
  ["Engenheiro Civil", "Arquiteta", "Professor", "Advogada", "Médico", "Enfermeira", "Contador",
   "Analista de Sistemas", "Administradora", "Comerciante", "Agricultor", "Motorista",
   "Farmacêutica", "Jornalista", "Servidor Público"]

def propertyRegimes : List String :=
  ["Comunhão Parcial de Bens", "Comunhão Universal de Bens", "Separação Total de Bens"]

def officerRoles : List String :=
  ["Oficial de Registro", "Escrevente Autorizado"]

end Formulary.Sample.Pool
